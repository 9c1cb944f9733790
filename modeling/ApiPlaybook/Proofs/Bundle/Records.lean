/-
  ApiPlaybook.Proofs.Bundle.Records
  ─────────────────────────────────
  **RECORDS READ BACK FROM TEXTS.**

  What was written as a JSON value is recovered by a reader if it reads every
  arrangement of that value as the same thing (`Recovers`).  For records this
  comes from two facts.  Read in the order of their declaration, the members
  that were written give the record, those left out having their first values
  (`Fills`); and members of different names may be read in either order
  (`Member.Commutes`), so the order of the text does not matter.
-/
import Mathlib.Data.List.Pairwise
import ApiPlaybook.Bundle.Decode
import ApiPlaybook.Bundle.Encode
import ApiPlaybook.Proofs.Json.Arrangement

namespace ApiPlaybook

variable {α ρ : Type}

/-- However the value is arranged, the reader gives the same for its text. -/
def Recovers (read : Draft → Except DecodeError α) (j : Json) (v : α) : Prop :=
  ∀ j' : Json, j'.Arranges j → read j'.draft = .ok v

/-- What is read from the draft of a value is read from the text of that value. -/
theorem decodeText_text {read : Draft → Except DecodeError α} {j : Json} {v : α}
    (hnumbers : j.NumbersReadBack) (hdepth : j.depth ≤ JsonText.greatestDepth)
    (h : read j.draft = .ok v) : decodeText read (JsonText.read j.text) = .ok v := by
  rw [JsonText.read_text hnumbers hdepth]
  simp only [decodeText, h, bind, Except.bind]
  rfl

/-! ## §1. Texts, flags, words and free values. -/

/-- The drafts of the items of an array, one by one. -/
theorem draftItems_eq_map (items : List Json) : Json.draftItems items = items.map (·.draft) := by
  induction items with
  | nil => rfl
  | cons item rest ih => rw [Json.draftItems, ih, List.map_cons]

/-- The drafts of the members of an object, under names without a flaw. -/
theorem draftMembers_eq_map (members : List (String × Json)) :
    Json.draftMembers members = members.map fun e => (.ok e.1, e.2.draft) := by
  induction members with
  | nil => rfl
  | cons e rest ih => rw [Json.draftMembers, ih, List.map_cons]

namespace Recovers

theorem text (s : String) : Recovers readText (.string s) s := by
  intro j hj
  rw [hj.of_string]
  rfl

theorem flag (b : Bool) : Recovers Source.flag (.bool b) b := by
  intro j hj
  rw [hj.eq_of_leaf nofun nofun]
  rfl

/-- A free value is recovered when its members are in name order, for that is how they are read. -/
theorem free {j : Json} (hj : j.IsOrdered) : Recovers Source.free j j := by
  intro j' h
  show Draft.asError j'.draft.value = .ok j
  rw [Json.value_draft j' h hj]
  rfl

/-- A word is found again among all words. -/
theorem choice {words : List (String × α)} {word : String} {v : α}
    (h : words.find? (·.1 == word) = some (word, v)) :
    Recovers (readChoice words) (.string word) v := by
  intro j hj
  rw [hj.of_string]
  have hmem : (words.map (·.1)).contains word = true := by
    rw [List.contains_iff_mem]
    exact List.mem_map.mpr ⟨_, List.mem_of_find?_eq_some h, rfl⟩
  have hchoice : Source.choice (words.map (·.1)) (Json.string word).draft
      = (Except.ok word : Except DecodeError String) := by
    show (if (words.map (·.1)).contains word then _ else _) = _
    rw [if_pos hmem]
  simp only [readChoice, hchoice, bind, Except.bind, h]
  rfl

/-! ## §2. Values that may be null, lists and maps. -/

/-- What is present is recovered as such, unless it is written as a null. -/
theorem optional {read : Draft → Except DecodeError α} {j : Json} {v : α}
    (h : Recovers read j v) (hj : j ≠ .null) : Recovers (readOptional read) j (some v) := by
  intro j' hj'
  have hread := h j' hj'
  have hnull : j' ≠ .null := by
    intro heq
    rw [heq] at hj'
    exact hj (show Json.null = j from hj').symm
  have hsome : Source.optional j'.draft
      = (Except.ok (some j'.draft) : Except DecodeError (Option Draft)) := by
    cases j' with
    | null => exact absurd rfl hnull
    | _ => rfl
  simp only [readOptional, hsome, bind, Except.bind, hread]
  rfl

/-- Items that are recovered one by one. -/
theorem items {read : Draft → Except DecodeError α} {encode : α → Json} {vs : List α}
    (h : ∀ v ∈ vs, Recovers read (encode v) v) {items : List Json}
    (hitems : List.Forall₂ Json.Arranges items (vs.map encode)) :
    (items.map (·.draft)).mapM read = .ok vs := by
  induction vs generalizing items with
  | nil =>
    cases hitems
    rfl
  | cons v rest ih =>
    rw [List.map_cons] at hitems
    cases hitems with
    | cons hitem hrest =>
      obtain ⟨hv, hvs⟩ := List.forall_mem_cons.mp h
      rw [List.map_cons, List.mapM_cons, hv _ hitem, ih hvs hrest]
      rfl

/-- A list is recovered item by item, in its order. -/
theorem list {read : Draft → Except DecodeError α} {encode : α → Json} {vs : List α}
    (h : ∀ v ∈ vs, Recovers read (encode v) v) :
    Recovers (readList read) (.array (vs.map encode)) vs := by
  intro j hj
  obtain ⟨items, rfl, hitems⟩ := hj.of_array
  have hread := Recovers.items h hitems
  have hseries : Source.series (Json.array items).draft
      = (Except.ok ⟨items.map (·.draft), .ok (), .ok (), .error (.malformed .trailingCharacters)⟩
        : Except DecodeError (Series Draft)) := by
    rw [Json.draft, draftItems_eq_map]
    rfl
  simp only [readList, hseries, bind, Except.bind, hread]
  rfl

/-- Entries that are recovered one by one are put into the map in turn. -/
theorem entries {read : Draft → Except DecodeError α} {encode : α → Json}
    {vs : List (String × α)} (h : ∀ e ∈ vs, Recovers read (encode e.2) e.2)
    {members : List (String × Json)}
    (hmembers : List.Forall₂ Json.MemberArranges members
      (vs.map fun e => (e.1, encode e.2))) (acc : NameMap α) :
    ∃ m, readEntries read acc (members.map fun e => (.ok e.1, e.2.draft)) = .ok m ∧
      m.entries = insertEntries acc.entries vs := by
  induction vs generalizing members acc with
  | nil =>
    cases hmembers
    exact ⟨acc, rfl, rfl⟩
  | cons v rest ih =>
    rw [List.map_cons] at hmembers
    cases hmembers with
    | @cons e _ members _ hmember hrest =>
      obtain ⟨hv, hvs⟩ := List.forall_mem_cons.mp h
      obtain ⟨m, hread, hm⟩ := ih hvs hrest (acc.insert v.1 v.2)
      refine ⟨m, ?_, hm⟩
      rw [List.map_cons, readEntries, hmember.1, hv _ hmember.2]
      exact hread

/-- A map is recovered in whatever order the text has its members. -/
theorem map {read : Draft → Except DecodeError α} {encode : α → Json} {m : NameMap α}
    (h : ∀ e ∈ m.entries, Recovers read (encode e.2) e.2) :
    Recovers (readMap read) (encodeMap encode m) m := by
  intro j hj
  obtain ⟨members, order, rfl, horder, hperm⟩ := hj.of_object
  -- the entries of the map in the order of the text, which need not be that of their names
  obtain ⟨vs, hvs, hentries⟩ : Relation.Comp
      (List.Forall₂ fun (e : String × Json) (v : String × α) => e = (v.1, encode v.2))
      List.Perm order m.entries := by
    rw [List.forall₂_comp_perm_eq_perm_comp_forall₂]
    refine ⟨_, hperm, ?_⟩
    exact List.forall₂_map_left_iff.mpr (List.forall₂_same.mpr fun e _ => rfl)
  have horder' : order = vs.map fun v => (v.1, encode v.2) := by
    rw [← List.forall₂_eq_eq_eq, List.forall₂_map_right_iff]
    exact hvs
  rw [horder'] at horder
  obtain ⟨m', hread, hm'⟩ :=
    Recovers.entries (fun e he => h e (hentries.mem_iff.mp he)) horder .empty
  have heq : m' = m :=
    NameMap.ext_entries (hm'.trans (insertEntries_of_perm m.inOrder hentries))
  have hmembers : Source.members "a map" (Json.object members).draft
      = (Except.ok ⟨members.map fun e => (.ok e.1, e.2.draft), .ok ()⟩
        : Except DecodeError (Members Draft)) := by
    rw [Json.draft, draftMembers_eq_map]
    show Except.ok _ = _
    rw [List.map_map]
    rfl
  simp only [readMap, hmembers, bind, Except.bind, hread, heq]
  rfl

end Recovers

/-! ## §3. Members that are read in any order. -/

namespace Member

variable {σ : Type}

/-- A member whose value is put into the record. -/
def setting (name : String) (required : Bool) (read : σ → Except DecodeError α)
    (put : ρ → α → ρ) : Member σ ρ :=
  ⟨name, required, fun x r => return put r (← read x)⟩

/-- A field that is needed is a setting that is required. -/
@[simp] theorem needs_eq (name : String) (read : σ → Except DecodeError α) (put : ρ → α → ρ) :
    Member.needs name read put = .setting name true read put := rfl

/-- A field that is allowed is one that is not. -/
@[simp] theorem allows_eq (name : String) (read : σ → Except DecodeError α) (put : ρ → α → ρ) :
    Member.allows name read put = .setting name false read put := rfl

/-- Members of different names that may be read in either order. -/
structure Commutes (f g : Member σ ρ) : Prop where
  name_ne : f.name ≠ g.name
  swap (x y : σ) (r s : ρ) :
    (∃ r', f.read x r = .ok r' ∧ g.read y r' = .ok s) ↔
      ∃ r', g.read y r = .ok r' ∧ f.read x r' = .ok s

instance : Std.Symm (@Commutes ρ σ) :=
  ⟨fun _ _ h => ⟨h.name_ne.symm, fun x y r s => (h.swap y x r s).symm⟩⟩

/-- A setting reads a value and puts it into the record. -/
theorem setting_read_eq_ok {name : String} {required : Bool} {read : σ → Except DecodeError α}
    {put : ρ → α → ρ} {x : σ} {r s : ρ} :
    (setting name required read put).read x r = .ok s ↔ ∃ v, read x = .ok v ∧ put r v = s := by
  show (do return put r (← read x)) = Except.ok s ↔ _
  cases read x with
  | error e => simp [bind, Except.bind]
  | ok v => simp [bind, Except.bind, pure, Except.pure]

/-- Members that set different parts of a record. -/
@[simp] theorem setting_commutes {β : Type} {name name' : String} {required required' : Bool}
    {read : σ → Except DecodeError α} {read' : σ → Except DecodeError β}
    {put : ρ → α → ρ} {put' : ρ → β → ρ} (hname : name ≠ name')
    (hput : ∀ r v w, put' (put r v) w = put (put' r w) v) :
    (setting name required read put).Commutes (setting name' required' read' put') := by
  refine ⟨hname, fun x y r s => ?_⟩
  simp only [setting_read_eq_ok]
  constructor
  · rintro ⟨_, ⟨v, hv, rfl⟩, w, hw, rfl⟩
    exact ⟨_, ⟨w, hw, rfl⟩, v, hv, (hput r v w).symm⟩
  · rintro ⟨_, ⟨w, hw, rfl⟩, v, hv, rfl⟩
    exact ⟨_, ⟨v, hv, rfl⟩, w, hw, hput r v w⟩

end Member

variable {fields : List (Member Draft ρ)}

/-- Members of a text that are read one after the other, each by the field of its name. -/
inductive Reads (fields : List (Member Draft ρ)) : ρ → List (String × Json) → ρ → Prop where
  | nil {r : ρ} : Reads fields r [] r
  | cons {f : Member Draft ρ} {r r' s : ρ} {e : String × Json} {es : List (String × Json)}
      (hf : f ∈ fields) (hname : f.name = e.1) (hread : f.read e.2.draft r = .ok r')
      (hrest : Reads fields r' es s) : Reads fields r (e :: es) s

/-- **MEMBERS MAY STAND IN ANY ORDER.** -/
theorem Reads.perm (hfields : fields.Pairwise Member.Commutes) {es es' : List (String × Json)}
    (hp : es.Perm es') (hn : (es.map (·.1)).Nodup) {r s : ρ} (h : Reads fields r es s) :
    Reads fields r es' s := by
  induction hp generalizing r with
  | nil => exact h
  | cons e hp ih =>
    cases h with
    | cons hf hname hread hrest =>
      exact .cons hf hname hread (ih (List.nodup_cons.mp hn).2 hrest)
  | swap e e' rest =>
    -- two fields are read, and they are not the same, since the names are not
    cases h with
    | @cons f _ _ _ _ _ hf hname hread hrest =>
      cases hrest with
      | @cons g _ _ _ _ _ hg hname' hread' hrest =>
        have hne : f ≠ g := by
          intro heq
          refine (List.nodup_cons.mp hn).1 (List.mem_cons.mpr (.inl ?_))
          show e'.1 = e.1
          rw [← hname, heq, hname']
        have hcommutes := hfields.forall hf hg hne
        obtain ⟨r', hg', hf'⟩ := (hcommutes.swap _ _ _ _).mp ⟨_, hread, hread'⟩
        exact .cons hg hname' hg' (.cons hf hname hf' hrest)
  | trans hp _ ih ih' =>
    exact ih' ((hp.map _).nodup_iff.mp hn) (ih hn h)

/-- The field of a name is found. -/
theorem find?_name (hfields : fields.Pairwise Member.Commutes) {f : Member Draft ρ}
    (hf : f ∈ fields) : fields.find? (·.name == f.name) = some f := by
  have hsome : (fields.find? (·.name == f.name)).isSome :=
    List.find?_isSome.mpr ⟨f, hf, beq_self_eq_true f.name⟩
  obtain ⟨g, hg⟩ := Option.isSome_iff_exists.mp hsome
  have hname : g.name = f.name := by simpa using List.find?_some hg
  by_cases hne : g = f
  · rw [hg, hne]
  · exact absurd hname
      (hfields.forall (List.mem_of_find?_eq_some hg) hf hne).name_ne

/-- Members with different names, not met before, that include all required ones. -/
theorem Reads.readNamed (hfields : fields.Pairwise Member.Commutes) {r s : ρ}
    {es : List (String × Json)} (h : Reads fields r es s) (hn : (es.map (·.1)).Nodup)
    {seen : List String} (hseen : ∀ e ∈ es, e.1 ∉ seen)
    (hrequired : ∀ f ∈ fields, f.required = true → f.name ∈ seen ∨ f.name ∈ es.map (·.1)) :
    ApiPlaybook.readNamed fields (.ok ()) seen r (es.map fun e => (.ok e.1, e.2.draft))
      = .ok s := by
  -- along the members: a name goes over from those to come to those met
  induction h generalizing seen with
  | nil =>
    have hnone : fields.find? (fun f => f.required && !seen.contains f.name) = none := by
      refine List.find?_eq_none.mpr fun f hf => ?_
      by_cases hreq : f.required = true
      · have hmem : f.name ∈ seen := (hrequired f hf hreq).resolve_right List.not_mem_nil
        simp [hmem]
      · simp [hreq]
    simp only [List.map_nil, ApiPlaybook.readNamed, hnone]
    rfl
  | @cons f r r' s e es hf hname hread hrest ih =>
    obtain ⟨hnew, hn⟩ := List.nodup_cons.mp hn
    obtain ⟨hfirst, hothers⟩ := List.forall_mem_cons.mp hseen
    have hseen' : ∀ e' ∈ es, e'.1 ∉ e.1 :: seen := by
      intro e' he' hmem
      rcases List.mem_cons.mp hmem with heq | hmem
      · exact hnew (List.mem_map.mpr ⟨e', he', heq⟩)
      · exact hothers e' he' hmem
    have hrequired' : ∀ f ∈ fields, f.required = true →
        f.name ∈ e.1 :: seen ∨ f.name ∈ es.map (·.1) := by
      intro f hf hreq
      rcases hrequired f hf hreq with hmem | hmem
      · exact .inl (List.mem_cons_of_mem _ hmem)
      · rcases List.mem_cons.mp hmem with heq | hmem
        · exact .inl (List.mem_cons.mpr (.inl heq))
        · exact .inr hmem
    have hrest := ih hn hseen' hrequired'
    have hfind := find?_name hfields hf
    rw [hname] at hfind
    have hcontains : seen.contains e.1 = false := by simpa using hfirst
    simp only [List.map_cons, ApiPlaybook.readNamed, bind, Except.bind, hfind, hcontains, hread]
    exact hrest

/-! ## §4. Records with members left out. -/

/-- The members of a record in the order of its fields: each is given, or left out where it is
not required. -/
inductive Fills : List (Member Draft ρ) → ρ → List (String × Json) → ρ → Prop where
  | nil {r : ρ} : Fills [] r [] r
  | present {f : Member Draft ρ} {fs : List (Member Draft ρ)} {r r' s : ρ} {j : Json}
      {es : List (String × Json)}
      (hread : ∀ j' : Json, j'.Arranges j → f.read j'.draft r = .ok r')
      (hrest : Fills fs r' es s) : Fills (f :: fs) r ((f.name, j) :: es) s
  | absent {f : Member Draft ρ} {fs : List (Member Draft ρ)} {r s : ρ}
      {es : List (String × Json)} (hf : f.required = false) (hrest : Fills fs r es s) :
      Fills (f :: fs) r es s

namespace Fills

variable {fs : List (Member Draft ρ)} {r s : ρ} {es : List (String × Json)} {name : String}

/-- The members that were written have names of fields, in the order of the fields. -/
theorem names_sublist (h : Fills fs r es s) : (es.map (·.1)).Sublist (fs.map (·.name)) := by
  induction h with
  | nil => exact .slnil
  | present _ _ ih => exact .cons_cons _ ih
  | absent _ _ ih => exact .cons _ ih

theorem required_mem (h : Fills fs r es s) :
    ∀ f ∈ fs, f.required = true → f.name ∈ es.map (·.1) := by
  induction h with
  | nil => exact nofun
  | present _ _ ih =>
    refine List.forall_mem_cons.mpr ⟨fun _ => List.mem_cons_self, fun f hf hreq => ?_⟩
    exact List.mem_cons_of_mem _ (ih f hf hreq)
  | absent hf _ ih =>
    refine List.forall_mem_cons.mpr ⟨fun hreq => ?_, ih⟩
    rw [hf] at hreq
    cases hreq

/-- In the order of the fields, any arrangement of the members is read. -/
theorem reads (h : Fills fs r es s) (hfs : ∀ f ∈ fs, f ∈ fields) {members : List (String × Json)}
    (hmembers : List.Forall₂ Json.MemberArranges members es) : Reads fields r members s := by
  induction h generalizing members with
  | nil =>
    cases hmembers
    exact .nil
  | present hread _ ih =>
    obtain ⟨hf, hfs⟩ := List.forall_mem_cons.mp hfs
    cases hmembers with
    | cons hmember hmembers =>
      exact .cons hf hmember.1.symm (hread _ hmember.2) (ih hfs hmembers)
  | absent _ _ ih => exact ih (List.forall_mem_cons.mp hfs).2 hmembers

/-- A field that was written, in front of the rest. -/
theorem setting {read : Draft → Except DecodeError α} {put : ρ → α → ρ} {required : Bool}
    {j : Json} {v : α} (h : Recovers read j v) (hrest : Fills fs (put r v) es s) :
    Fills (.setting name required read put :: fs) r ((name, j) :: es) s :=
  .present (fun j' hj' => Member.setting_read_eq_ok.mpr ⟨v, h j' hj', rfl⟩) hrest

/-- A member that is left out when absent; `put r none` changes nothing. -/
theorem optional {read : Draft → Except DecodeError α} {put : ρ → Option α → ρ}
    {encode : α → Json} {o : Option α} (hput : put r none = r)
    (h : ∀ v, o = some v → Recovers read (encode v) v ∧ encode v ≠ .null)
    (hrest : Fills fs (put r o) es s) :
    Fills (.setting name false (readOptional read) put :: fs) r
      (optionalMember name encode o ++ es) s := by
  cases o with
  | none =>
    rw [hput] at hrest
    exact .absent rfl hrest
  | some v =>
    obtain ⟨hv, hnull⟩ := h v rfl
    exact .setting (hv.optional hnull) hrest

/-- A list that is left out when empty. -/
theorem list {read : Draft → Except DecodeError α} {put : ρ → List α → ρ} {encode : α → Json}
    {vs : List α} (hput : put r [] = r) (h : ∀ v ∈ vs, Recovers read (encode v) v)
    (hrest : Fills fs (put r vs) es s) :
    Fills (.setting name false (readList read) put :: fs) r
      (listMember name encode vs ++ es) s := by
  cases vs with
  | nil =>
    rw [hput] at hrest
    exact .absent rfl hrest
  | cons v rest => exact .setting (.list h) hrest

/-- A map that is left out when empty. -/
theorem map {read : Draft → Except DecodeError α} {put : ρ → NameMap α → ρ} {encode : α → Json}
    {m : NameMap α} (hput : put r .empty = r)
    (h : ∀ e ∈ m.entries, Recovers read (encode e.2) e.2) (hrest : Fills fs (put r m) es s) :
    Fills (.setting name false (readMap read) put :: fs) r
      (mapMember name encode m ++ es) s := by
  by_cases hm : m.isEmpty = true
  · have hempty : m = .empty := NameMap.ext_entries (List.isEmpty_iff.mp hm)
    rw [mapMember, if_pos hm]
    rw [hempty, hput] at hrest
    exact .absent rfl hrest
  · rw [mapMember, if_neg hm]
    exact .setting (.map h) hrest

end Fills

/-- **A RECORD IS RECOVERED** from the members that were written, in any order. -/
theorem Recovers.record {name : String} {start v : ρ} {es : List (String × Json)}
    (hfields : fields.Pairwise Member.Commutes) (h : Fills fields start (es ++ []) v) :
    Recovers (readRecord name fields start) (.ofMembers es) v := by
  intro j hj
  rw [List.append_nil] at h
  have hnames : (fields.map (·.name)).Nodup :=
    List.pairwise_map.mpr (hfields.imp fun h => h.name_ne)
  have hn : (es.map (·.1)).Nodup := hnames.sublist h.names_sublist
  -- the members of the text, put in the order in which they were written
  obtain ⟨members, ordered, rfl, hperm, hordered⟩ := hj.of_ofMembers hn
  have heq : ordered.map (·.1) = es.map (·.1) := by
    rw [← List.forall₂_eq_eq_eq, List.forall₂_map_left_iff, List.forall₂_map_right_iff]
    exact hordered.imp fun _ _ h => h.1
  have hn' : (ordered.map (·.1)).Nodup := heq ▸ hn
  have hreads := (h.reads (fun _ hf => hf) hordered).perm hfields hperm.symm hn'
  have hseen : ∀ e ∈ members, e.1 ∉ ([] : List String) := fun _ _ => List.not_mem_nil
  have hrequired : ∀ f ∈ fields, f.required = true →
      f.name ∈ ([] : List String) ∨ f.name ∈ members.map (·.1) := by
    intro f hf hreq
    refine .inr ((hperm.map _).mem_iff.mpr ?_)
    rw [heq]
    exact h.required_mem f hf hreq
  have hread := hreads.readNamed hfields ((hperm.map _).nodup_iff.mpr hn') hseen hrequired
  have hrecord : Source.record ("struct " ++ name) (Json.object members).draft
      = (Except.ok (.inl ⟨members.map fun e => (.ok e.1, e.2.draft), .ok ()⟩)
        : Except DecodeError (Members Draft ⊕ Series Draft)) := by
    rw [Json.draft, draftMembers_eq_map]
    show Except.ok _ = _
    rw [List.map_map]
    rfl
  simp only [readRecord, hrecord, bind, Except.bind]
  exact hread

end ApiPlaybook
