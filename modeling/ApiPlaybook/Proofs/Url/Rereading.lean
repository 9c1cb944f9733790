/-
  ApiPlaybook.Proofs.Url.Rereading
  ────────────────────────────────
  **A URL IS READ AGAIN FROM ITS TEXT.**

  Every URL that was read has a scheme in lower case, what can stand behind it,
  and a query and a fragment with their characters escaped (`isRead_of_ofList`).
  Adding a pair to the query and leaving an empty query out keep this
  (`IsRead.withPair`, `IsRead.withoutEmptyQuery`).  And

      the text of such a URL is read without an error, with the query of the URL
      (`IsRead.exists_ofList`).
-/
import ApiPlaybook.Proofs.Url.Hierarchies

namespace ApiPlaybook.Url

/-! ## §1. Schemes. -/

/-- A scheme in lower case. -/
structure IsScheme (scheme : List Char) : Prop where
  letter : scheme.head?.any Char.isAlpha = true
  each : ∀ c ∈ scheme, (c.isAlphanum || "+-.".toList.contains c) = true ∧ c.toLower = c

/-- What a scheme is made of, and what it is made of in lower case. -/
theorem lower_of_scheme {c : Char} (h : (c.isAlphanum || "+-.".toList.contains c) = true) :
    (c.toLower.isAlphanum || "+-.".toList.contains c.toLower) = true ∧
      c.toLower.toLower = c.toLower ∧ (c.isAlpha = true → c.toLower.isAlpha = true) :=
  forall_of_ascii (P := fun c => (c.isAlphanum || "+-.".toList.contains c) = true →
    (c.toLower.isAlphanum || "+-.".toList.contains c.toLower) = true ∧
      c.toLower.toLower = c.toLower ∧ (c.isAlpha = true → c.toLower.isAlpha = true))
    (by decide) (isAscii_of_alphanum_or (by decide) h) h

/-- No character of a scheme is blank or ends the scheme. -/
theorem IsScheme.mem {scheme : List Char} (h : IsScheme scheme) {c : Char} (hc : c ∈ scheme) :
    ' ' < c ∧ c ∉ ['#', '?', ':'] :=
  forall_of_ascii (P := fun c => (c.isAlphanum || "+-.".toList.contains c) = true →
    ' ' < c ∧ c ∉ ['#', '?', ':']) (by decide) (isAscii_of_alphanum_or (by decide) (h.each c hc).1) (h.each c hc).1

/-- A scheme that could be read is a scheme. -/
theorem isScheme_of_scheme? {cs scheme rest : List Char} (h : scheme? cs = some (scheme, rest)) :
    IsScheme scheme := by
  unfold scheme? at h
  obtain ⟨⟨front, behind⟩, -, h⟩ := Option.bind_eq_some_iff.mp h
  obtain ⟨u, hletter, h⟩ := Option.bind_eq_some_iff.mp h
  obtain ⟨v, hmarks, h⟩ := Option.bind_eq_some_iff.mp h
  cases h
  have hletter := (Option.guard_eq_some' u).mp hletter
  have hmarks := List.all_eq_true.mp ((Option.guard_eq_some' v).mp hmarks)
  constructor
  · cases front with
    | nil => cases hletter
    | cons c front => exact (lower_of_scheme (hmarks c List.mem_cons_self)).2.2 hletter
  · intro c hc
    obtain ⟨d, hd, rfl⟩ := List.mem_map.mp hc
    obtain ⟨heach, hlower, -⟩ := lower_of_scheme (hmarks d hd)
    exact ⟨heach, hlower⟩

/-- A scheme in lower case is read as it is. -/
theorem IsScheme.scheme? {scheme : List Char} (h : IsScheme scheme) (rest : List Char) :
    scheme? (scheme ++ ':' :: rest) = some (scheme, rest) := by
  have hcolon : ':' ∉ scheme := fun hc => (h.mem hc).2 (by decide)
  have hmarks : (scheme.all fun c => c.isAlphanum || "+-.".toList.contains c) = true :=
    List.all_eq_true.mpr fun c hc => (h.each c hc).1
  have hlower : scheme.map Char.toLower = scheme :=
    (List.map_congr_left fun c hc => (h.each c hc).2).trans (List.map_id _)
  unfold Url.scheme?
  rw [splitFirst_append rest hcolon]
  simp only [Option.bind_eq_bind, Option.bind_some, h.letter, hmarks, hlower]
  rfl

/-! ## §2. URLs. -/

/-- What every URL that was read satisfies. -/
structure IsRead (u : Url) : Prop where
  scheme : IsScheme u.scheme
  hierarchy : IsHierarchy u.scheme u.authority u.path
  query : ∀ q, u.query = some q → ∀ c ∈ q, escapedInQuery (isSpecial u.scheme) c = false
  fragment : ∀ f, u.fragment = some f → ∀ c ∈ f, escapedInFragment c = false
  /-- Nothing is passed over at the end of a free path. -/
  ending : u.query = none → u.fragment = none → ∀ text, u.path = .free text → EndsVisibly text

/-! ### What is read -/

/-- A cut at the first mark: the front has none, and the text is made up of the parts. -/
theorem cutAt_eq {mark : Char} {cs front : List Char} {behind : Option (List Char)}
    (h : cutAt mark cs = (front, behind)) : mark ∉ front ∧ cs = front ++ marked mark behind := by
  by_cases hmark : mark ∈ cs
  · obtain ⟨a, b, rfl, ha⟩ := List.eq_append_cons_of_mem hmark
    unfold cutAt at h
    rw [splitFirst_append b ha] at h
    cases h
    exact ⟨ha, rfl⟩
  · rw [cutAt_of_not_mem hmark] at h
    cases h
    exact ⟨hmark, (List.append_nil _).symm⟩

/-- A text is cut where a mark was put behind a front without marks. -/
theorem cutAt_append {mark : Char} {front : List Char} (h : mark ∉ front)
    (behind : Option (List Char)) : cutAt mark (front ++ marked mark behind) = (front, behind) := by
  cases behind with
  | none =>
    rw [marked, List.append_nil]
    exact cutAt_of_not_mem h
  | some behind =>
    unfold cutAt marked
    dsimp only
    rw [splitFirst_append behind h]

/-- The last character of a cleaned text is visible. -/
theorem endsVisibly_cleaned (cs : List Char) : EndsVisibly (cleaned cs) := by
  unfold cleaned
  dsimp only
  -- the last character is the first one from behind at which the dropping stops
  generalize (cs.dropWhile fun c => decide (c ≤ ' ')).reverse = reversed
  have hhead := List.head?_dropWhile_not (fun c => decide (c ≤ ' ')) reversed
  cases hrest : reversed.dropWhile fun c => decide (c ≤ ' ') with
  | nil => exact nofun
  | cons last rest =>
    rw [hrest] at hhead
    have hvisible : ' ' < last := by simpa using hhead
    have hkept : (!(last == '\t' || last == '\n' || last == '\r')) = true := by
      have hne {c : Char} (hc : ¬ ' ' < c) : last ≠ c := fun heq => hc (heq ▸ hvisible)
      simp [hne (c := '\t') (by decide), hne (c := '\n') (by decide), hne (c := '\r') (by decide)]
    intro c hc
    rw [List.reverse_cons, List.filter_append, List.filter_cons, if_pos hkept, List.filter_nil,
      List.getLast?_concat] at hc
    rwa [← Option.some.inj hc]

/-- A text ends visibly when what is put behind it is visible. -/
theorem endsVisibly_append_of_visible {a b : List Char} (ha : b = [] → EndsVisibly a)
    (hb : ∀ c ∈ b, ' ' < c) : EndsVisibly (a ++ b) := by
  by_cases hnil : b = []
  · rw [hnil, List.append_nil]
    exact ha hnil
  · intro c hc
    rw [List.getLast?_append, List.getLast?_eq_some_getLast hnil, Option.some_or] at hc
    exact hb c (Option.some.inj hc ▸ List.getLast_mem hnil)

/-- The end of a text that ends visibly does so. -/
theorem EndsVisibly.of_append {a b : List Char} (h : EndsVisibly (a ++ b)) : EndsVisibly b := by
  intro c hc
  refine h c ?_
  rw [List.getLast?_append, hc]
  rfl

/-- The last character stays visible if it is escaped. -/
theorem endsVisibly_escape (mustEscape : Char → Bool) {cs : List Char} (h : EndsVisibly cs) :
    EndsVisibly (escape mustEscape cs) := by
  rcases List.eq_nil_or_concat cs with rfl | ⟨front, last, rfl⟩
  · exact nofun
  · -- the last character, or the digits that it becomes
    have hlast : ' ' < last := h last (by simp)
    have hvisible : ∀ c ∈ escape mustEscape [last], ' ' < c :=
      forall_mem_escape (fun c hc _ => List.mem_singleton.mp hc ▸ hlast) (by decide) (by decide)
    have hsome : escape mustEscape [last] ≠ [] := by
      obtain ⟨rest, hrest⟩ := exists_escapedChar_eq last
      rw [escape_cons, hrest]
      split <;> exact nofun
    rw [List.concat_eq_append, escape_append]
    exact endsVisibly_append_of_visible (fun hnil => absurd hnil hsome) hvisible

/-- Whatever is read as a URL is well formed. -/
theorem isRead_of_ofList {cs : List Char} {u : Url} (h : ofList cs = .ok u) : u.IsRead := by
  rcases hf : cutAt '#' (cleaned cs) with ⟨middle, fragment⟩
  rcases hq : cutAt '?' middle with ⟨front, query⟩
  rw [ofList_of_cuts hf hq] at h
  obtain ⟨hhash, hcs⟩ := cutAt_eq hf
  obtain ⟨hmark, rfl⟩ := cutAt_eq hq
  cases hs : scheme? front with
  | none =>
    rw [hs] at h
    cases h
  | some r =>
    obtain ⟨scheme, rest⟩ := r
    rw [hs] at h
    obtain ⟨⟨authority, path⟩, hread, rfl⟩ := map_eq_ok.mp h
    obtain ⟨before, hfront, -⟩ := scheme?_eq_some hs
    have hrest : ∀ c ∈ rest, c ∈ front := fun c hc => by
      rw [hfront]
      exact List.mem_append_right _ (List.mem_cons_of_mem _ hc)
    have hmarks : ∀ c ∈ rest, c ∉ ['#', '?'] := by
      intro c hc hmem
      rcases List.mem_cons.mp hmem with rfl | hmem
      · exact hhash (List.mem_append_left _ (hrest _ hc))
      · exact hmark (List.mem_singleton.mp hmem ▸ hrest c hc)
    obtain ⟨hhierarchy, hfree⟩ := isHierarchy_of_hierarchyOf hmarks hread
    refine ⟨isScheme_of_scheme? hs, hhierarchy, ?_, ?_, ?_⟩
    · intro q hq
      obtain ⟨text, -, rfl⟩ := Option.map_eq_some_iff.mp hq
      exact forall_mem_escape (fun _ _ h => h) (by cases isSpecial scheme <;> decide)
        (by cases isSpecial scheme <;> decide)
    · intro f hf
      obtain ⟨text, -, rfl⟩ := Option.map_eq_some_iff.mp hf
      exact forall_mem_escape (fun _ _ h => h) (by decide) (by decide)
    · intro hq hf text hpath
      rw [hfree text hpath]
      -- then the rest is the end of the text
      cases Option.map_eq_none_iff.mp hq
      cases Option.map_eq_none_iff.mp hf
      have hend : EndsVisibly ((before ++ [':']) ++ rest) := by
        rw [List.append_assoc, List.singleton_append, ← hfront]
        have hcs : cleaned cs = front := by simpa [marked] using hcs
        exact hcs ▸ endsVisibly_cleaned cs
      exact endsVisibly_escape escapedAlways hend.of_append

/-! ### What is read again -/

section Rereading

variable {u : Url}

/-- What is not escaped in a query or a fragment is visible, and starts no fragment. -/
theorem visible_of_query {special : Bool} {c : Char} (h : escapedInQuery special c = false) :
    ' ' < c ∧ c ≠ '#' :=
  forall_of_not_escaped (P := fun c => ' ' < c ∧ c ≠ '#')
    (fun c hc => by simp [escapedInQuery, hc]) (by cases special <;> decide) h

/-- A character that stands unescaped in a fragment is visible. -/
theorem visible_of_fragment {c : Char} (h : escapedInFragment c = false) : ' ' < c :=
  forall_of_not_escaped (P := fun c => ' ' < c) (fun c hc => by simp [escapedInFragment, hc])
    (by decide) h

/-- The scheme, the authority and the path as they are written. -/
def front (u : Url) : List Char := u.scheme ++ ':' :: hierarchyText u.authority u.path

/-- The text of a URL in parts. -/
theorem toList_eq (u : Url) :
    u.toList = u.scheme ++ ':' :: (hierarchyText u.authority u.path ++ marked '?' u.query
      ++ marked '#' u.fragment) := rfl

/-- The front of a URL, then a query and a fragment behind their marks. -/
theorem toList_eq_marked (u : Url) :
    u.toList = u.front ++ marked '?' u.query ++ marked '#' u.fragment := by
  rw [toList_eq, front]
  simp

/-- The front of a URL that was read has no marks of a query or a fragment. -/
theorem IsRead.mem_front (h : u.IsRead) {c : Char} (hc : c ∈ u.front) :
    ' ' ≤ c ∧ c ∉ ['#', '?'] := by
  rcases List.mem_append.mp hc with hc | hc
  · obtain ⟨hvisible, hnot⟩ := h.scheme.mem hc
    exact ⟨Nat.le_of_lt hvisible, fun hmem => hnot (List.mem_append_left [':'] hmem)⟩
  · rcases List.mem_cons.mp hc with rfl | hc
    · decide
    · exact h.hierarchy.mem_text hc

/-- What stands behind a mark is visible. -/
theorem mem_marked {mark c : Char} {text : Option (List Char)} (hc : c ∈ marked mark text) :
    c = mark ∨ ∃ behind, text = some behind ∧ c ∈ behind := by
  cases text with
  | none => cases hc
  | some behind => exact (List.mem_cons.mp hc).imp_right fun hc => ⟨behind, rfl, hc⟩

/-- Its query has no mark of a fragment. -/
theorem IsRead.mem_query (h : u.IsRead) {c : Char} (hc : c ∈ marked '?' u.query) :
    ' ' < c ∧ c ≠ '#' := by
  rcases mem_marked hc with rfl | ⟨q, hq, hc⟩
  · decide
  · exact visible_of_query (h.query q hq c hc)

theorem IsRead.mem_fragment (h : u.IsRead) {c : Char} (hc : c ∈ marked '#' u.fragment) :
    ' ' < c := by
  rcases mem_marked hc with rfl | ⟨f, hf, hc⟩
  · decide
  · exact visible_of_fragment (h.fragment f hf c hc)

theorem marked_eq_nil {mark : Char} {text : Option (List Char)} (h : marked mark text = []) :
    text = none := by
  cases text with
  | none => rfl
  | some behind => cases h

/-- Its text ends visibly, so reading it again cuts nothing off the end. -/
theorem IsRead.endsVisibly (h : u.IsRead) : EndsVisibly u.toList := by
  rw [toList_eq_marked]
  refine endsVisibly_append_of_visible (fun hfragment => ?_) fun c hc => h.mem_fragment hc
  refine endsVisibly_append_of_visible (fun hquery => ?_) fun c hc => (h.mem_query hc).1
  exact endsVisibly_append (by decide) (h.hierarchy.endsVisibly
    (h.ending (marked_eq_nil hquery) (marked_eq_nil hfragment)))

/-- No control character stands in the text of a URL. -/
theorem IsRead.mem_toList (h : u.IsRead) {c : Char} (hc : c ∈ u.toList) : ' ' ≤ c := by
  rw [toList_eq_marked] at hc
  rcases List.mem_append.mp hc with hc | hc
  · rcases List.mem_append.mp hc with hc | hc
    · exact (h.mem_front hc).1
    · exact Nat.le_of_lt (h.mem_query hc).1
  · exact Nat.le_of_lt (h.mem_fragment hc)

/-- Nothing is passed over in the text of a URL. -/
theorem IsRead.cleaned_toList (h : u.IsRead) : cleaned u.toList = u.toList := by
  have hfirst : ∀ c, u.toList.head? = some c → ' ' < c := by
    intro c hc
    have hletter := h.scheme.letter
    cases hscheme : u.scheme with
    | nil =>
      rw [hscheme] at hletter
      cases hletter
    | cons d scheme =>
      rw [toList_eq, hscheme] at hc
      cases hc
      exact (h.scheme.mem (hscheme ▸ List.mem_cons_self)).1
  refine cleaned_append (a := []) h.endsVisibly hfirst fun c hc hmem => ?_
  have hblank : ¬ ' ' ≤ c := by
    simp only [List.mem_cons, List.not_mem_nil, or_false] at hmem
    rcases hmem with rfl | rfl | rfl <;> decide
  exact hblank (h.mem_toList hc)

/-- **A URL IS READ AGAIN**, with its query. -/
theorem IsRead.exists_ofList (h : u.IsRead) :
    ∃ v, ofList u.toList = .ok v ∧ v.query = u.query := by
  have hhash : '#' ∉ u.front ++ marked '?' u.query := by
    intro hmem
    rcases List.mem_append.mp hmem with hmem | hmem
    · exact (h.mem_front hmem).2 (by decide)
    · exact (h.mem_query hmem).2 rfl
  have hmark : '?' ∉ u.front := fun hmem => (h.mem_front hmem).2 (by decide)
  have hfragment : cutAt '#' (cleaned u.toList) = (u.front ++ marked '?' u.query, u.fragment) := by
    rw [h.cleaned_toList, toList_eq_marked, cutAt_append hhash]
  obtain ⟨⟨authority, path⟩, hread⟩ :=
    h.hierarchy.exists_hierarchyOf (u.query.isSome || u.fragment.isSome)
  -- what was escaped once stays as it is
  have hquery : u.query.map (escape (escapedInQuery (isSpecial u.scheme))) = u.query := by
    cases hq : u.query with
    | none => rfl
    | some q => exact congrArg some (escape_eq_self (h.query q hq))
  rw [ofList_of_cuts hfragment (cutAt_append hmark u.query), front, h.scheme.scheme?]
  dsimp only
  rw [hread, hquery]
  exact ⟨_, rfl, rfl⟩

/-! ## §3. Other queries. -/

/-- What is written for a name or a value. -/
theorem mem_formText {cs : List Char} {c : Char} (h : c ∈ formText cs) :
    isPlainInForm c = true ∨ c ∈ ['+', '%'] := by
  obtain ⟨d, -, hc⟩ := List.mem_flatMap.mp h
  split at hc
  · exact .inr (List.mem_singleton.mp hc ▸ List.mem_cons_self)
  split at hc
  · next hplain => exact .inl (List.mem_singleton.mp hc ▸ hplain)
  · rcases mem_escapedChar hc with rfl | ⟨n, hn, rfl⟩
    · exact .inr (by decide)
    · exact .inl ((by decide : ∀ n < 16, isPlainInForm (hexDigit n) = true) n hn)

/-- A pair is written so that nothing in it has to be escaped. -/
theorem escapedInQuery_pairText (special : Bool) (name value : String) :
    ∀ c ∈ pairText name value, escapedInQuery special c = false := by
  have htext {cs : List Char} {c : Char} (h : c ∈ formText cs) :
      escapedInQuery special c = false := by
    rcases mem_formText h with hplain | hmem
    · exact forall_of_ascii (P := fun c => isPlainInForm c = true →
        escapedInQuery special c = false) (by cases special <;> decide)
        (isAscii_of_alphanum_or (by decide) hplain) hplain
    · simp only [List.mem_cons, List.not_mem_nil, or_false] at hmem
      rcases hmem with rfl | rfl <;> cases special <;> decide
  intro c hc
  rcases List.mem_append.mp hc with hc | hc
  · exact htext hc
  · rcases List.mem_cons.mp hc with rfl | hc
    · cases special <;> decide
    · exact htext hc

/-- A pair that is added to the query keeps a URL well formed. -/
theorem IsRead.withPair (h : u.IsRead) (name value : String) : (u.withPair name value).IsRead where
  scheme := h.scheme
  hierarchy := h.hierarchy
  fragment := h.fragment
  ending := nofun
  query := by
    intro q hq
    cases hq
    -- the pair is written in escaped form, with an ampersand before it if there are others
    have hpair := escapedInQuery_pairText (isSpecial u.scheme) name value
    unfold appendPair
    split
    · exact hpair
    · intro c hc
      rcases List.mem_append.mp hc with hc | hc
      · cases hquery : u.query with
        | none =>
          rw [hquery] at hc
          cases hc
        | some q =>
          rw [hquery] at hc
          exact h.query q hquery c hc
      · rcases List.mem_cons.mp hc with rfl | hc
        · show escapedInQuery (isSpecial u.scheme) '&' = false
          cases isSpecial u.scheme <;> decide
        · exact hpair c hc

/-- Cutting blanks off the end of free text keeps a hierarchy well formed. -/
theorem IsHierarchy.withoutEndBlanks {scheme : List Char} {authority : Option Authority}
    {path : Path} (h : IsHierarchy scheme authority path) :
    IsHierarchy scheme authority path.withoutEndBlanks ∧
      ∀ text, path.withoutEndBlanks = .free text → EndsVisibly text := by
  cases h with
  | file hscheme ha hparts => exact ⟨.file hscheme ha hparts, nofun⟩
  | named hscheme ha hhost hparts => exact ⟨.named hscheme ha hhost hparts, nofun⟩
  | rooted hspecial hparts => exact ⟨.rooted hspecial hparts, nofun⟩
  | @free text hspecial htext hstart =>
    have hfront : (text.reverse.dropWhile (· == ' ')).reverse <+: text := by
      simpa using List.reverse_prefix.mpr (List.dropWhile_suffix (l := text.reverse) (· == ' '))
    constructor
    · refine .free hspecial (fun c hc => htext c (hfront.subset hc)) fun hslash => hstart ?_
      obtain ⟨blanks, hblanks⟩ := hfront
      rw [← hblanks, List.head?_append, hslash]
      rfl
    · intro text' htext' c hc
      cases htext'
      have hge : 0x20 ≤ c.toNat :=
        (escapedAlways_eq_false.mp (htext c (hfront.subset (List.mem_of_getLast? hc))).1).1
      -- the blanks are gone, and no other character of the text is one
      have hne : c ≠ ' ' := by
        have hhead := List.head?_dropWhile_not (· == ' ') text.reverse
        rw [List.getLast?_reverse] at hc
        rw [hc] at hhead
        simpa using hhead
      exact Nat.lt_of_le_of_ne hge fun heq => hne (Char.toNat_inj.mp heq.symm)

/-- So does leaving out an empty query, behind which free text may have ended in blanks. -/
theorem IsRead.withoutEmptyQuery (h : u.IsRead) : u.withoutEmptyQuery.IsRead := by
  obtain ⟨hhierarchy, hending⟩ := h.hierarchy.withoutEndBlanks
  unfold Url.withoutEmptyQuery
  split
  · -- without a fragment the path comes to stand at the end
    refine ⟨h.scheme, ?_, nofun, h.fragment, fun _ hfragment => ?_⟩
    · dsimp only
      split
      · exact hhierarchy
      · exact h.hierarchy
    · dsimp only at hfragment ⊢
      rw [hfragment]
      exact hending
  · exact h

end Rereading

end ApiPlaybook.Url
