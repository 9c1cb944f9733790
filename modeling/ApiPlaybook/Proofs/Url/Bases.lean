/-
  ApiPlaybook.Proofs.Url.Bases
  ────────────────────────────
  **A PATH BEHIND A BASE.**

  A base and a path are joined as texts, and the text is read as one URL.  What
  stands in front of the path of the base is read as before, whatever path
  follows (`exists_front`), and the parts of the base are walked before those of
  the path (`pathBehindAuthority_append`).

      so the URL is that of the base, and the parts of the path are walked from
      the segments of the base on (`ofText_joinPath`).

  The text of the base has to end in a visible character: the reader passes over
  blanks at the end of a text, but not over those that come to stand inside.
-/
import Mathlib.Data.Option.Basic
import ApiPlaybook.Preparation

namespace ApiPlaybook.Url

/-! ## §1. Texts that are clean. -/

/-- The last character, if any, is visible. -/
def EndsVisibly (cs : List Char) : Prop := ∀ c, cs.getLast? = some c → ' ' < c

instance (cs : List Char) : Decidable (EndsVisibly cs) :=
  decidable_of_iff (cs.getLast?.all fun c => ' ' < c) (by
    unfold EndsVisibly
    cases cs.getLast? <;> simp)

/-- A path that the reader takes as it stands. -/
structure StandsInPath (p : List Char) : Prop where
  unmarked : ∀ c ∈ p, c ∉ ['#', '?', '\t', '\n', '\r']
  ending : EndsVisibly p

/-- Nothing, or a slash with something behind it. -/
def StartsPath (z : List Char) : Prop := ∀ c, z.head? = some c → isSlash true c = true

theorem StartsPath.nil : StartsPath [] := nofun

/-- A text with a slash in front begins a path. -/
theorem StartsPath.cons (p : List Char) : StartsPath ('/' :: p) := by
  intro c h
  cases h
  rfl

/-- The reader does not pass over the end of a text. -/
theorem endsVisibly_dropWhile {cs : List Char} (h : EndsVisibly cs) :
    (cs.reverse.dropWhile fun c => decide (c ≤ ' ')).reverse = cs := by
  cases hr : cs.reverse with
  | nil => simpa using hr.symm
  | cons c rest =>
    have hlast : cs.getLast? = some c := by rw [← List.head?_reverse, hr]; rfl
    have hc : ¬ c ≤ ' ' := Char.not_le.mpr (h c hlast)
    rw [List.dropWhile_cons_of_neg (by simpa using hc), ← hr, List.reverse_reverse]

/-- What is left of the front of a text. -/
def cleanedFront (a : List Char) : List Char :=
  (a.dropWhile fun c => decide (c ≤ ' ')).filter fun c => !(c == '\t' || c == '\n' || c == '\r')

/-- The end of a text is left as it is if it is clean. -/
theorem cleaned_append {a b : List Char} (hending : EndsVisibly (a ++ b))
    (hstart : ∀ c, b.head? = some c → ' ' < c) (hb : ∀ c ∈ b, c ∉ ['\t', '\n', '\r']) :
    cleaned (a ++ b) = cleanedFront a ++ b := by
  -- blanks in front are dropped from the first text only,
  have hdrop : (a ++ b).dropWhile (fun c => decide (c ≤ ' '))
      = a.dropWhile (fun c => decide (c ≤ ' ')) ++ b := by
    rw [List.dropWhile_append]
    split
    · next hnone =>
      rw [List.isEmpty_iff.mp hnone, List.nil_append]
      cases b with
      | nil => rfl
      | cons c b => exact List.dropWhile_cons_of_neg (by simpa using hstart c rfl)
    · rfl
  -- there are none behind the second one,
  have hsuffix : EndsVisibly ((a ++ b).dropWhile fun c => decide (c ≤ ' ')) := by
    intro c hc
    obtain ⟨front, hfront⟩ := List.dropWhile_suffix (l := a ++ b) fun c => decide (c ≤ ' ')
    refine hending c ?_
    rw [← hfront, List.getLast?_append, hc]
    rfl
  -- and nothing inside it is dropped
  have hkept : b.filter (fun c => !(c == '\t' || c == '\n' || c == '\r')) = b := by
    refine List.filter_eq_self.mpr fun c hc => ?_
    have hc := hb c hc
    simp only [List.mem_cons, List.not_mem_nil, or_false, not_or] at hc
    simp [hc]
  unfold cleaned cleanedFront
  dsimp only
  rw [endsVisibly_dropWhile hsuffix, hdrop, List.filter_append, hkept]

/-! ## §2. In front of a path. -/

/-- The authority ends at the first slash. -/
theorem takeWhile_front {front z : List Char} (hfront : ∀ c ∈ front, isSlash true c = false)
    (hz : StartsPath z) : (front ++ z).takeWhile (fun c => !isSlash true c) = front := by
  rw [List.takeWhile_append_of_pos (by simpa using hfront)]
  cases z with
  | nil => simp
  | cons c z => simp [hz c rfl]

/-- The path begins at the first slash. -/
theorem dropWhile_front {front z : List Char} (hfront : ∀ c ∈ front, isSlash true c = false)
    (hz : StartsPath z) : (front ++ z).dropWhile (fun c => !isSlash true c) = z := by
  rw [List.dropWhile_append_of_pos (by simpa using hfront)]
  cases z with
  | nil => rfl
  | cons c z => simp [hz c rfl]

/-- In front of the path nothing is left behind a port. -/
theorem behind_of_portOf {scheme text behind : List Char} {port : Option Nat}
    (htext : ∀ c ∈ text, isSlash true c = false) (h : portOf scheme text = .ok (port, behind)) :
    behind = [] := by
  unfold portOf at h
  dsimp only at h
  have hrest : ∀ c ∈ text.dropWhile Char.isDigit, isSlash true c = false := fun c hc =>
    htext c ((List.dropWhile_suffix _).subset hc)
  cases hd : text.dropWhile Char.isDigit with
  | nil =>
    rw [hd] at h
    split at h
    · cases h
    · split at h <;> cases h <;> rfl
  | cons c rest =>
    have hc : c ≠ '\\' := by
      rintro rfl
      exact absurd (hrest _ (by rw [hd]; exact List.mem_cons_self)) (by decide)
    rw [hd, if_pos (by simp [hc])] at h
    cases h

/-- A host and a port are cut at the colon between them. -/
theorem splitPort_eq {b : Bool} {cs host text : List Char}
    (h : splitPort b cs = (host, some text)) : cs = host ++ ':' :: text := by
  induction cs generalizing b host with
  | nil => cases h
  | cons c rest ih =>
    unfold splitPort at h
    split at h
    · next hc =>
      cases h
      rw [hc.1]
      rfl
    · obtain ⟨rfl, hrest⟩ := Prod.mk.inj h
      exact congrArg (c :: ·) (ih (Prod.ext rfl hrest))

/-- The authority that a user, a password and an address make. -/
def authorityAt (scheme username password address : List Char) : Except UrlError Authority := do
  let (hostText, portText) := splitPort false address
  if hostText.isEmpty then throw .emptyHost
  let host ← Host.ofSpecial hostText
  if host.isEmpty && portText.isSome then throw .emptyHost
  let port ← match portText with
    | some text => (portOf scheme text).map (·.1)
    | none => pure none
  if host.isEmpty && !(username.isEmpty && password.isEmpty) then throw .emptyHost
  return ⟨username, password, host, port⟩

/-- The authority of a text without a path. -/
def authorityIn (scheme front : List Char) : Except UrlError Authority :=
  match splitLast '@' front with
  | none => authorityAt scheme [] [] front
  | some (user, address) =>
    authorityAt scheme (userInfoOf user).1 (userInfoOf user).2 address

/-- The parts around the last mark make up the text. -/
theorem splitLast_eq {mark : Char} {cs front behind : List Char}
    (h : splitLast mark cs = some (front, behind)) : cs = front ++ mark :: behind := by
  obtain ⟨⟨a, b⟩, hsplit, he⟩ := Option.map_eq_some_iff.mp h
  cases he
  simpa using congrArg List.reverse (splitFirst_eq hsplit)

/-- What the authority is read as does not depend on the path behind it. -/
theorem authorityOf_append {scheme front z : List Char} (hspecial : isSpecial scheme = true)
    (hfront : ∀ c ∈ front, isSlash true c = false) (hz : StartsPath z) :
    authorityOf scheme (front ++ z) false
      = (authorityIn scheme front).map fun a => (a, pathBehindAuthority true z) := by
  have htake := takeWhile_front hfront hz
  have hdrop := dropWhile_front hfront hz
  -- nothing of the front is taken for a part of the path
  have hbehind {user address hostText text behind : List Char} {port : Option Nat}
      (hfront' : front = user ++ address) (hsplit : splitPort false address = (hostText, some text))
      (hport : portOf scheme text = .ok (port, behind)) : behind = [] := by
    refine behind_of_portOf (fun c hc => hfront c ?_) hport
    rw [hfront', splitPort_eq hsplit]
    simp [hc]
  unfold authorityIn
  cases hat : splitLast '@' front with
  | none =>
    simp only [authorityOf, hspecial, htake, hdrop, hat, authorityAt, bind, Except.bind, pure,
      Except.pure, Bool.true_and, throw, throwThe, MonadExceptOf.throw, Except.map, reduceIte]
    rcases hp : splitPort false front with ⟨hostText, _ | text⟩
    · grind
    · have hb {port : Option Nat} {behind : List Char} :
          portOf scheme text = .ok (port, behind) → behind = [] :=
        hbehind (List.nil_append front).symm hp
      grind
  | some r =>
    obtain ⟨user, address⟩ := r
    have hfront' := splitLast_eq hat
    rw [show '@' :: address = ['@'] ++ address from rfl, ← List.append_assoc] at hfront'
    -- without a user and an address there is no host, whatever follows
    have hnobody : address.isEmpty = true → (splitPort false address).1.isEmpty = true := by
      intro h
      rw [List.isEmpty_iff.mp h]
      rfl
    simp only [authorityOf, hspecial, htake, hdrop, hat, authorityAt, bind, Except.bind, pure,
      Except.pure, Bool.true_and, throw, throwThe, MonadExceptOf.throw, Except.map, reduceIte]
    rcases hp : splitPort false address with ⟨hostText, _ | text⟩
    · cases user with
      | nil => grind [userInfoOf, splitFirst, escape]
      | cons c user => grind
    · have hb {port : Option Nat} {behind : List Char} :
          portOf scheme text = .ok (port, behind) → behind = [] := hbehind hfront' hp
      cases user with
      | nil => grind [userInfoOf, splitFirst, escape]
      | cons c user => grind

/-- A text without the mark is not cut. -/
theorem cutAt_of_not_mem {mark : Char} {cs : List Char} (h : mark ∉ cs) :
    cutAt mark cs = (cs, none) := by
  unfold cutAt
  rw [splitFirst_eq_none h]

/-- A text that was not cut has no mark. -/
theorem cutAt_eq_none {mark : Char} {cs front : List Char} (h : cutAt mark cs = (front, none)) :
    mark ∉ cs ∧ front = cs := by
  have hnot : mark ∉ cs := by
    intro hm
    obtain ⟨a, b, rfl, ha⟩ := List.eq_append_cons_of_mem hm
    unfold cutAt at h
    rw [splitFirst_append b ha] at h
    cases h
  rw [cutAt_of_not_mem hnot] at h
  exact ⟨hnot, (Prod.mk.inj h).1.symm⟩

/-- A text is read once it is cut. -/
theorem ofList_of_cuts {cs front middle : List Char} {query fragment : Option (List Char)}
    (hfragment : cutAt '#' (cleaned cs) = (middle, fragment))
    (hquery : cutAt '?' middle = (front, query)) :
    ofList cs = match scheme? front with
      | none => .error .relative
      | some (scheme, rest) =>
        (hierarchyOf scheme rest (query.isSome || fragment.isSome)).map fun r =>
          ⟨scheme, r.1, r.2, query.map (escape (escapedInQuery (isSpecial scheme))),
            fragment.map (escape escapedInFragment)⟩ := by
  unfold ofList
  simp only [hfragment, hquery]
  cases scheme? front with
  | none => rfl
  | some r =>
    obtain ⟨scheme, rest⟩ := r
    cases hierarchyOf scheme rest (query.isSome || fragment.isSome) <;> rfl

/-- A URL without query and fragment. -/
theorem ofList_eq_ok {cs : List Char} {u : Url} (hquery : u.query = none)
    (hfragment : u.fragment = none) :
    ofList cs = .ok u ↔ '#' ∉ cleaned cs ∧ '?' ∉ cleaned cs ∧
      ∃ rest, scheme? (cleaned cs) = some (u.scheme, rest) ∧
        hierarchyOf u.scheme rest false = .ok (u.authority, u.path) := by
  obtain ⟨scheme, authority, path, query, fragment⟩ := u
  cases hquery
  cases hfragment
  constructor
  · intro h
    rcases hf : cutAt '#' (cleaned cs) with ⟨middle, fragment⟩
    rcases hq : cutAt '?' middle with ⟨front, query⟩
    rw [ofList_of_cuts hf hq] at h
    -- a text without a scheme is refused
    cases hs : scheme? front with
    | none =>
      rw [hs] at h
      cases h
    | some r =>
      obtain ⟨scheme', rest⟩ := r
      rw [hs] at h
      dsimp only at h
      cases hh : hierarchyOf scheme' rest (query.isSome || fragment.isSome) with
      | error e =>
        rw [hh] at h
        cases h
      | ok r =>
        rw [hh] at h
        obtain ⟨rfl, rfl, rfl, hq', hf'⟩ := Url.mk.inj (Except.ok.inj h)
        -- there was nothing to cut
        rw [Option.map_eq_none_iff] at hq' hf'
        subst hq' hf'
        obtain ⟨hhash, rfl⟩ := cutAt_eq_none hf
        obtain ⟨hmark, rfl⟩ := cutAt_eq_none hq
        exact ⟨hhash, hmark, rest, hs, hh⟩
  · rintro ⟨hhash, hmark, rest, hs, hh⟩
    rw [ofList_of_cuts (cutAt_of_not_mem hhash) (cutAt_of_not_mem hmark), hs]
    dsimp only
    rw [Option.isSome_none, Bool.or_self, hh]
    rfl

/-- The scheme is read without what stands behind its colon. -/
theorem scheme?_eq_some {cs scheme rest : List Char} (h : scheme? cs = some (scheme, rest)) :
    ∃ front, cs = front ++ ':' :: rest ∧
      ∀ rest', scheme? (front ++ ':' :: rest') = some (scheme, rest') := by
  unfold scheme? at h
  obtain ⟨⟨front, behind⟩, hsplit, h⟩ := Option.bind_eq_some_iff.mp h
  obtain ⟨u, hletter, h⟩ := Option.bind_eq_some_iff.mp h
  obtain ⟨v, hmarks, h⟩ := Option.bind_eq_some_iff.mp h
  cases h
  have hcolon : ':' ∉ front := fun hm =>
    absurd (List.all_eq_true.mp ((Option.guard_eq_some' v).mp hmarks) _ hm) (by decide)
  refine ⟨front, splitFirst_eq hsplit, fun rest' => ?_⟩
  unfold scheme?
  rw [splitFirst_append rest' hcolon]
  simp only [Option.bind_eq_bind, Option.bind_some, hletter, hmarks]
  rfl

/-- A scheme of a base. -/
def IsHttp (scheme : List Char) : Prop := scheme = "http".toList ∨ scheme = "https".toList

theorem IsHttp.isSpecial {scheme : List Char} (h : IsHttp scheme) : isSpecial scheme = true := by
  rcases h with rfl | rfl <;> decide

/-- For a special scheme the authority comes behind all slashes, however many. -/
theorem hierarchyOf_special {scheme : List Char} (hfile : scheme ≠ "file".toList)
    (hspecial : isSpecial scheme = true) (cs : List Char) (more : Bool) :
    hierarchyOf scheme cs more
      = (authorityOf scheme (cs.dropWhile (isSlash true)) more).map fun r => (some r.1, r.2) := by
  have hfile : (scheme == "file".toList) = false := beq_eq_false_iff_ne.mpr hfile
  unfold hierarchyOf
  simp only [hfile, hspecial, Bool.false_eq_true, if_false, if_true]
  cases authorityOf scheme (cs.dropWhile (isSlash true)) more <;> rfl

theorem hierarchyOf_http {scheme : List Char} (hscheme : IsHttp scheme) (cs : List Char) :
    hierarchyOf scheme cs false
      = (authorityOf scheme (cs.dropWhile (isSlash true)) false).map fun r => (some r.1, r.2) := by
  have hfile : scheme ≠ "file".toList := by
    rcases hscheme with rfl | rfl <;> decide
  exact hierarchyOf_special hfile hscheme.isSpecial cs false

theorem authorityIn_nil (scheme : List Char) : authorityIn scheme [] = .error .emptyHost := rfl

/-- Behind slashes stands an authority. -/
theorem hierarchyOf_append {scheme slashes authority path : List Char} (hscheme : IsHttp scheme)
    (hslashes : ∀ c ∈ slashes, isSlash true c = true)
    (hauthority : ∀ c ∈ authority, isSlash true c = false) (hne : authority ≠ [])
    (hpath : StartsPath path) :
    hierarchyOf scheme (slashes ++ (authority ++ path)) false
      = (authorityIn scheme authority).map fun a => (some a, pathBehindAuthority true path) := by
  obtain ⟨c, more, rfl⟩ := List.exists_cons_of_ne_nil hne
  have hc : isSlash true c = false := hauthority c List.mem_cons_self
  rw [hierarchyOf_http hscheme, List.dropWhile_append_of_pos hslashes, List.cons_append,
    List.dropWhile_cons_of_neg (by simp [hc]), ← List.cons_append,
    authorityOf_append hscheme.isSpecial hauthority hpath]
  cases authorityIn scheme (c :: more) <;> rfl

/-- What stands behind a scheme: slashes, an authority and a path. -/
theorem exists_authority {scheme rest : List Char} {r : Option Authority × Path}
    (hscheme : IsHttp scheme) (h : hierarchyOf scheme rest false = .ok r) :
    ∃ slashes authority path, rest = slashes ++ (authority ++ path) ∧
      (∀ c ∈ slashes, isSlash true c = true) ∧ (∀ c ∈ authority, isSlash true c = false) ∧
      authority ≠ [] ∧ StartsPath path := by
  let behind := rest.dropWhile (isSlash true)
  let authority := behind.takeWhile fun c => !isSlash true c
  let path := behind.dropWhile fun c => !isSlash true c
  have hbehind : authority ++ path = behind := List.takeWhile_append_dropWhile
  have hauthority : ∀ c ∈ authority, isSlash true c = false := fun c hc => by
    simpa using List.all_eq_true.mp List.all_takeWhile c hc
  have hpath : StartsPath path := fun c hc => by
    have hhead := List.head?_dropWhile_not (fun c => !isSlash true c) behind
    rw [show (behind.dropWhile fun c => !isSlash true c).head? = some c from hc] at hhead
    simpa using hhead
  refine ⟨rest.takeWhile (isSlash true), authority, path, ?_,
    List.all_eq_true.mp List.all_takeWhile, hauthority, ?_, hpath⟩
  · rw [hbehind, List.takeWhile_append_dropWhile]
  · intro hnil
    -- a host would be missing
    rw [hierarchyOf_http hscheme, show rest.dropWhile (isSlash true) = authority ++ path from
      hbehind.symm, authorityOf_append hscheme.isSpecial hauthority hpath, hnil,
      authorityIn_nil] at h
    cases h

/-- A front of a URL: whatever path follows, the rest of the URL is the same. -/
structure IsFront (front : List Char) (u : Url) : Prop where
  ending : ∃ before c, front = before ++ [c] ∧ isSlash true c = false
  reads : ∀ cs path, cleaned cs = front ++ path → StartsPath path → '#' ∉ path → '?' ∉ path →
    ofList cs = .ok { u with path := pathBehindAuthority true path }

/-- **A URL HAS A FRONT AND A PATH.** -/
theorem exists_front {cs : List Char} {u : Url} (h : ofList cs = .ok u) (hscheme : IsHttp u.scheme)
    (hquery : u.query = none) (hfragment : u.fragment = none) :
    ∃ front path, IsFront front u ∧ cleaned cs = front ++ path ∧ StartsPath path ∧
      u.path = pathBehindAuthority true path := by
  obtain ⟨hhash, hmark, rest, hs, hh⟩ := (ofList_eq_ok hquery hfragment).mp h
  obtain ⟨scheme, hcs, hs'⟩ := scheme?_eq_some hs
  -- the front is the scheme, the slashes and the authority
  obtain ⟨slashes, authority, path, rfl, hslashes, hauthority, hne, hpath⟩ :=
    exists_authority hscheme hh
  rw [hierarchyOf_append hscheme hslashes hauthority hne hpath] at hh
  cases ha : authorityIn u.scheme authority with
  | error e =>
    rw [ha] at hh
    cases hh
  | ok a =>
    rw [ha] at hh
    obtain ⟨hauth, hpathOf⟩ := Prod.mk.inj (Except.ok.inj hh)
    have hclean : cleaned cs = scheme ++ ':' :: (slashes ++ authority) ++ path := by
      rw [hcs]
      simp
    refine ⟨scheme ++ ':' :: (slashes ++ authority), path, ⟨?_, ?_⟩, hclean, hpath, hpathOf.symm⟩
    · obtain ⟨before, c, hlast⟩ := (List.eq_nil_or_concat authority).resolve_left hne
      refine ⟨scheme ++ ':' :: (slashes ++ before), c, ?_, hauthority c ?_⟩ <;> simp [hlast]
    · -- behind this front any other path is read in the same way
      intro cs' path' hcs' hpath' hhash' hmark'
      refine (ofList_eq_ok (u := { u with path := pathBehindAuthority true path' }) hquery
        hfragment).mpr ⟨?_, ?_, slashes ++ (authority ++ path'), ?_, ?_⟩
      · rw [hcs', List.mem_append]
        exact not_or_intro (fun hm => hhash (hclean ▸ List.mem_append_left _ hm)) hhash'
      · rw [hcs', List.mem_append]
        exact not_or_intro (fun hm => hmark (hclean ▸ List.mem_append_left _ hm)) hmark'
      · rw [hcs', ← hs' (slashes ++ (authority ++ path'))]
        simp
      · rw [hierarchyOf_append hscheme hslashes hauthority hne hpath', ha]
        exact congrArg Except.ok (Prod.ext hauth rfl)

/-! ## §3. The parts of a path. -/

theorem partsAtSlashes_ne_nil (special : Bool) (cs : List Char) :
    partsAtSlashes special cs ≠ [] := by
  cases cs with
  | nil => simp [partsAtSlashes]
  | cons c rest =>
    rw [partsAtSlashes]
    split
    · simp
    · split <;> simp

/-- The parts of two texts with a slash between them are the parts of either. -/
theorem partsAtSlashes_append (special : Bool) (a b : List Char) :
    partsAtSlashes special (a ++ '/' :: b)
      = partsAtSlashes special a ++ partsAtSlashes special b := by
  induction a with
  | nil => rfl
  | cons c a ih =>
    rw [List.cons_append, partsAtSlashes, ih, partsAtSlashes.eq_def special (c :: a)]
    dsimp only
    split
    · rfl
    · cases h : partsAtSlashes special a with
      | nil => exact absurd h (partsAtSlashes_ne_nil special a)
      | cons part parts => rfl

/-- Slashes alone are empty parts, one more than there are slashes. -/
theorem partsAtSlashes_replicate (k : Nat) :
    partsAtSlashes true (List.replicate k '/') = List.replicate (k + 1) [] := by
  induction k with
  | zero => rfl
  | succ k ih => rw [List.replicate_succ, partsAtSlashes, if_pos (by decide), ih]; rfl

/-- Parts that do not move are put behind what is there. -/
theorem resolveParts_of_plain {parts : List (List Char)} (done : List (List Char))
    (h : ∀ part ∈ parts, isAbove part = false ∧ isHere part = false) :
    resolveParts done parts = done ++ parts := by
  induction parts generalizing done with
  | nil => simp [resolveParts]
  | cons part rest ih =>
    obtain ⟨habove, hhere⟩ := h part List.mem_cons_self
    rw [resolveParts, if_neg (by simp [habove]), if_neg (by simp [hhere]),
      ih _ fun p hp => h p (List.mem_cons_of_mem _ hp)]
    simp

/-- Where a part leads if others follow. -/
def walkPart (done : List (List Char)) (part : List Char) : List (List Char) :=
  if isAbove part then shorten done else if isHere part then done else done ++ [part]

/-- A part that is not the last is walked over. -/
theorem resolveParts_cons (done : List (List Char)) (part : List Char) {rest : List (List Char)}
    (h : rest ≠ []) :
    resolveParts done (part :: rest) = resolveParts (walkPart done part) rest := by
  have hrest : rest.isEmpty = false := by simpa using h
  rw [resolveParts, walkPart]
  split
  · simp [hrest]
  · split <;> simp [hrest]

/-- Parts are walked before those that follow them. -/
theorem resolveParts_append (done parts : List (List Char)) {more : List (List Char)}
    (h : more ≠ []) :
    resolveParts done (parts ++ more) = resolveParts (parts.foldl walkPart done) more := by
  induction parts generalizing done with
  | nil => rfl
  | cons part rest ih => rw [List.cons_append, resolveParts_cons done part (by simp [h]), ih]; rfl

/-- A last part that moves leaves an empty one at the end. -/
theorem exists_resolveParts_eq (done parts : List (List Char)) :
    ∃ k, resolveParts done parts = parts.foldl walkPart done ++ List.replicate k [] := by
  induction parts generalizing done with
  | nil => exact ⟨0, by simp [resolveParts]⟩
  | cons part rest ih =>
    cases rest with
    | nil =>
      simp only [resolveParts, List.isEmpty_nil, if_true, List.foldl_cons, List.foldl_nil, walkPart]
      split
      · exact ⟨1, rfl⟩
      · split
        · exact ⟨1, rfl⟩
        · exact ⟨0, by simp⟩
    | cons second rest =>
      rw [resolveParts_cons done part (by simp)]
      exact ih (walkPart done part)

/-- **A PATH BEHIND A PATH.**  The parts of the first are walked before those of the second. -/
theorem pathBehindAuthority_append {path : List Char} (h : StartsPath path) :
    ∃ reached,
      (∀ more, pathBehindAuthority true (path ++ '/' :: more) = .segments
        (resolveParts reached ((partsAtSlashes true more).map (escape escapedInPath)))) ∧
      ∀ n, ∃ k, pathBehindAuthority true (path ++ List.replicate n '/')
        = .segments (reached ++ List.replicate k []) := by
  have hplain (n : Nat) (reached : List (List Char)) :
      resolveParts reached ((partsAtSlashes true (List.replicate n '/')).map (escape escapedInPath))
        = reached ++ List.replicate (n + 1) [] := by
    rw [partsAtSlashes_replicate, List.map_replicate]
    refine resolveParts_of_plain _ fun part hpart => ?_
    rw [List.eq_of_mem_replicate hpart]
    decide
  cases path with
  | nil =>
    refine ⟨[], fun more => rfl, fun n => ?_⟩
    -- an empty path has one empty segment
    cases n with
    | zero => exact ⟨1, rfl⟩
    | succ n => exact ⟨n + 1, congrArg Path.segments (hplain n [])⟩
  | cons c path =>
    have hc : isSlash true c = true := h c rfl
    -- the segments that are reached are the parts walked over one by one
    let parts := (partsAtSlashes true path).map (escape escapedInPath)
    have hmore (more : List Char) : pathBehindAuthority true ((c :: path) ++ '/' :: more)
        = .segments (resolveParts (parts.foldl walkPart [])
            ((partsAtSlashes true more).map (escape escapedInPath))) := by
      have hne : (partsAtSlashes true more).map (escape escapedInPath) ≠ [] := by
        simpa using partsAtSlashes_ne_nil true more
      rw [← resolveParts_append [] parts hne, ← List.map_append, ← partsAtSlashes_append]
      show Path.segments (segmentsOf true (behindSlash true (c :: (path ++ '/' :: more)))) = _
      rw [behindSlash, if_pos hc]
      rfl
    refine ⟨parts.foldl walkPart [], hmore, fun n => ?_⟩
    cases n with
    | zero =>
      obtain ⟨k, hk⟩ := exists_resolveParts_eq [] parts
      refine ⟨k, ?_⟩
      show Path.segments (segmentsOf true (behindSlash true (c :: (path ++ [])))) = _
      rw [behindSlash, if_pos hc, List.append_nil, ← hk]
      rfl
    | succ n => exact ⟨n + 1, (hmore _).trans (congrArg Path.segments (hplain n _))⟩

/-! ## §4. A path behind a base. -/

/-- A path that goes on, or begins, with a slash. -/
theorem startsPath_append {path slashes : List Char} (h : StartsPath (path ++ slashes))
    (more : List Char) : StartsPath path ∧ StartsPath (path ++ '/' :: more) := by
  cases path with
  | nil => exact ⟨.nil, .cons more⟩
  | cons c path => exact ⟨h, h⟩

/-- The slashes at the end of a text. -/
theorem exists_slashes (cs : List Char) :
    ∃ n, cs = (cs.reverse.dropWhile (· == '/')).reverse ++ List.replicate n '/' := by
  have hall : ∀ c ∈ cs.reverse.takeWhile (· == '/'), c = '/' := fun c hc => by
    simpa using List.all_eq_true.mp List.all_takeWhile c hc
  refine ⟨(cs.reverse.takeWhile (· == '/')).length, ?_⟩
  rw [← List.reverse_replicate, ← List.eq_replicate_iff.mpr ⟨rfl, hall⟩, ← List.reverse_append,
    List.takeWhile_append_dropWhile, List.reverse_reverse]

/-- Slashes at the end of a URL belong to its path. -/
theorem exists_path_of_slashes {front path text : List Char} {u : Url} {n : Nat}
    (hfront : IsFront front u) (h : front ++ path = text ++ List.replicate n '/') :
    ∃ inner, text = front ++ inner ∧ path = inner ++ List.replicate n '/' := by
  rcases List.append_eq_append_iff.mp h with ⟨inner, htext, hpath⟩ | ⟨spare, hspare, hslashes⟩
  · exact ⟨inner, htext, hpath⟩
  · obtain ⟨before, c, hc, hplain⟩ := hfront.ending
    cases List.eq_nil_or_concat spare with
    | inl hnil =>
      subst hnil
      exact ⟨[], by simpa using hspare.symm, by simpa using hslashes.symm⟩
    | inr hlast =>
      -- the front would end in one of the slashes
      obtain ⟨spare, d, rfl⟩ := hlast
      have hd : d = '/' := by
        refine List.eq_of_mem_replicate (n := n) ?_
        rw [hslashes]
        simp
      rw [hc, List.concat_eq_append, ← List.append_assoc] at hspare
      have hcd : c = d := by simpa using (List.append_inj' hspare rfl).2
      rw [hcd, hd] at hplain
      exact absurd hplain (by decide)

/-- A text that ends visibly does so behind a visible mark. -/
theorem endsVisibly_append {a b : List Char} {mark : Char} (hmark : ' ' < mark)
    (hb : EndsVisibly b) : EndsVisibly (a ++ mark :: b) := by
  intro c hc
  rw [List.getLast?_append] at hc
  cases b with
  | nil =>
    cases hc
    exact hmark
  | cons d b => exact hb c (by simpa [List.getLast?_cons] using hc)

/-- **A PATH BEHIND A BASE.**  The URL is that of the base, with the parts of the path walked
from the segments of the base on. -/
theorem ofText_joinPath {base : String} {u : Url} (h : ofText base = .ok u)
    (hscheme : IsHttp u.scheme) (hquery : u.query = none) (hfragment : u.fragment = none)
    (hending : EndsVisibly base.toList) :
    ∃ reached k, u.path = .segments (reached ++ List.replicate k []) ∧
      ∀ path : String, StandsInPath (path.toList.dropWhile (· == '/')) →
        ofText (joinPath base path) = .ok { u with
          path := .segments (resolveParts reached
            ((partsAtSlashes true (path.toList.dropWhile (· == '/'))).map
              (escape escapedInPath))) } := by
  obtain ⟨hhash, hmark, -⟩ := (ofList_eq_ok hquery hfragment).mp h
  obtain ⟨front, path, hfront, hclean, hpath, hu⟩ := exists_front h hscheme hquery hfragment
  obtain ⟨n, hslashes⟩ := exists_slashes base.toList
  have hjoin (p : String) : (joinPath base p).toList
      = (base.toList.reverse.dropWhile (· == '/')).reverse
        ++ '/' :: p.toList.dropWhile (· == '/') := String.toList_ofList
  generalize (base.toList.reverse.dropWhile (· == '/')).reverse = text at hslashes hjoin
  -- the slashes at the end of the base stand at the end of its path
  have hbase : cleaned base.toList = cleanedFront text ++ List.replicate n '/' := by
    rw [hslashes]
    refine cleaned_append (hslashes ▸ hending) (fun c hc => ?_) fun c hc => ?_
    · rw [List.eq_of_mem_replicate (List.mem_of_head? hc)]
      decide
    · rw [List.eq_of_mem_replicate hc]
      decide
  rw [hclean] at hbase hhash hmark
  obtain ⟨inner, htext, rfl⟩ := exists_path_of_slashes hfront hbase
  obtain ⟨reached, hreached, hends⟩ := pathBehindAuthority_append (startsPath_append hpath []).1
  obtain ⟨k, hk⟩ := hends n
  refine ⟨reached, k, hu.trans hk, fun p hp => ?_⟩
  -- what is read is the front of the base with the two paths behind it
  have hclean' : cleaned (joinPath base p).toList
      = front ++ (inner ++ '/' :: p.toList.dropWhile (· == '/')) := by
    rw [hjoin, cleaned_append (endsVisibly_append (by decide) hp.ending), htext, List.append_assoc]
    · intro c hc
      cases hc
      decide
    · intro c hc
      rcases List.mem_cons.mp hc with rfl | hc
      · decide
      · have := hp.unmarked c hc
        simp only [List.mem_cons, not_or] at this ⊢
        exact this.2.2
  -- neither of the paths has a mark of a query or a fragment
  have hunmarked {mark : Char} (hm : mark ∈ ['#', '?'])
      (hnot : mark ∉ front ++ (inner ++ List.replicate n '/')) :
      mark ∉ inner ++ '/' :: p.toList.dropWhile (· == '/') := by
    intro h
    rcases List.mem_append.mp h with h | h
    · exact hnot (List.mem_append_right _ (List.mem_append_left _ h))
    · rcases List.mem_cons.mp h with rfl | h
      · exact absurd hm (by decide)
      · exact hp.unmarked mark h (List.mem_of_mem_take (i := 2) hm)
  rw [← hreached]
  exact hfront.reads _ _ hclean' (startsPath_append hpath _).2 (hunmarked (by decide) hhash)
    (hunmarked (by decide) hmark)

end ApiPlaybook.Url
