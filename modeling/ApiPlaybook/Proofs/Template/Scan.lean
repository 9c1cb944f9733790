/-
  ApiPlaybook.Proofs.Template.Scan
  ────────────────────────────────
  **SCANNING A TEXT FOR REFERENCES.**

  A scan takes the leftmost match of the pattern for references, goes on behind
  it, and leaves the characters in between (`Scan`).  There is one scan of a text,
  and it has the pieces into which the text is cut (`scan_iff`).

  A string that is one reference is not scanned: it takes the value itself.  That
  is so exactly where the scan has one match and nothing beside it
  (`wholeReference?_iff`), and where a text is wanted it makes no difference
  (`asText_substituteString`).  So a URL, a method and the template of a credential
  are replaced as texts (`substituteString_asText`).
-/
import ApiPlaybook.Proofs.Template.LookUps
import ApiPlaybook.Proofs.Template.Pattern

namespace ApiPlaybook

open Regex (PatternMatches PatternFound)

/-! ## §1. Scans. -/

/-- A scan of what stands behind the text before: the leftmost matches of the pattern, one after
the other, and the characters in between. -/
inductive Scan : List Char → List Char → List Piece → Prop
  | done {before : List Char} : Scan before [] []
  | reference {before written rest name : List Char} {ps : List Piece}
    (h : PatternMatches referencePattern before written rest [(1, name)])
    (hrest : Scan (before ++ written) rest ps) :
    Scan before (written ++ rest) (.reference ⟨String.ofList name, written⟩ :: ps)
  | char {before rest : List Char} {c : Char} {ps : List Piece}
    (h : ∀ written behind groups, c :: rest = written ++ behind →
      ¬ PatternMatches referencePattern before written behind groups)
    (hrest : Scan (before ++ [c]) rest ps) : Scan before (c :: rest) (.char c :: ps)

/-- No reference is read exactly where the pattern has no match. -/
theorem at?_eq_none {before cs : List Char} : Reference.at? cs = none ↔
    ∀ written behind groups, cs = written ++ behind →
      ¬ PatternMatches referencePattern before written behind groups := by
  constructor
  · intro hnone written behind groups hcs hmatch
    obtain ⟨name, hwrites, -⟩ := Regex.patternMatches_reference.mp hmatch
    rw [hcs, Reference.at?_of_writes hwrites] at hnone
    cases hnone
  · intro h
    cases hr : Reference.at? cs with
    | none => rfl
    | some found =>
      obtain ⟨r, rest⟩ := found
      obtain ⟨hwrites, hcs⟩ := Reference.at?_eq_some.mp hr
      exact absurd (Regex.patternMatches_reference.mpr ⟨_, hwrites, rfl⟩) (h _ rest _ hcs)

/-- **THE SCAN OF A TEXT** has the pieces into which it is cut. -/
theorem scan_iff {before cs : List Char} {ps : List Piece} :
    Scan before cs ps ↔ ps = pieces cs := by
  constructor
  · intro h
    induction h with
    | done => exact pieces_nil.symm
    | reference h _ ih =>
      obtain ⟨name, hwrites, hgroups⟩ := Regex.patternMatches_reference.mp h
      cases hgroups
      rw [pieces_of_reference (Reference.at?_of_writes hwrites _), ih]
    | char h _ ih => rw [pieces_of_char (at?_eq_none.mpr h), ih]
  · rintro rfl
    -- along the pieces, with all that was scanned in front
    induction cs using pieces.induct generalizing before with
    | case1 =>
      rw [pieces_nil]
      exact .done
    | case2 c tail r rest hr ih =>
      obtain ⟨hwrites, hcs⟩ := Reference.at?_eq_some.mp hr
      have hmatch : PatternMatches referencePattern before r.written rest [(1, r.name.toList)] :=
        Regex.patternMatches_reference.mpr ⟨_, hwrites, rfl⟩
      have hscan := Scan.reference hmatch ih
      rw [String.ofList_toList] at hscan
      rw [pieces_of_reference hr, hcs]
      exact hscan
    | case3 c tail hnone ih =>
      rw [pieces_of_char hnone]
      exact .char (at?_eq_none.mp hnone) ih

/-! ## §2. Texts that are one reference. -/

/-- A string is one reference if nothing is left behind it. -/
theorem wholeReference?_eq_some {s name : String} : wholeReference? s = some name ↔
    ∃ r, Reference.at? s.toList = some (r, []) ∧ r.name = name := by
  unfold wholeReference?
  constructor
  · intro h
    split at h
    · next r hr => exact ⟨r, hr, Option.some.inj h⟩
    · cases h
  · rintro ⟨r, hr, rfl⟩
    rw [hr]

/-- A reference that nothing stands behind is the one piece. -/
theorem pieces_eq_singleton {cs : List Char} {r : Reference} :
    pieces cs = [.reference r] ↔ Reference.at? cs = some (r, []) := by
  constructor
  · intro h
    cases cs with
    | nil =>
      rw [pieces_nil] at h
      cases h
    | cons c tail =>
      cases hr : Reference.at? (c :: tail) with
      | none =>
        rw [pieces_of_char hr] at h
        cases h
      | some found =>
        obtain ⟨r', rest⟩ := found
        rw [pieces_of_reference hr] at h
        obtain ⟨hhead, htail⟩ := List.cons.inj h
        -- the pieces make up the text, so without further pieces there is no text left
        have hrest : rest = [] := by rw [← written_pieces rest, htail]; rfl
        cases hhead
        rw [hrest]
  · intro h
    rw [pieces_of_reference h, pieces_nil]

/-- **A TEXT IS ONE REFERENCE** when its scan has one match, from end to end. -/
theorem wholeReference?_iff {s name : String} : wholeReference? s = some name ↔
    variableNames s = [name] ∧ ∃ r, pieces s.toList = [.reference r] ∧ r.written = s.toList := by
  rw [wholeReference?_eq_some]
  constructor
  · rintro ⟨r, hr, rfl⟩
    have hpieces := pieces_eq_singleton.mpr hr
    have hwritten : r.written = s.toList := by rw [Reference.at?_eq hr, List.append_nil]
    refine ⟨?_, r, hpieces, hwritten⟩
    unfold variableNames
    rw [hpieces]
    rfl
  · rintro ⟨hnames, r, hpieces, -⟩
    unfold variableNames at hnames
    rw [hpieces] at hnames
    exact ⟨r, pieces_eq_singleton.mp hpieces, List.singleton_inj.mp hnames⟩

/-- It is one when the bound pattern is found in it. -/
theorem wholeReference?_iff_found {s name : String} : wholeReference? s = some name ↔
    PatternFound wholePattern s.toList [(1, name.toList)] := by
  rw [wholeReference?_eq_some]
  constructor
  · rintro ⟨r, hr, rfl⟩
    obtain ⟨hwrites, hcs⟩ := Reference.at?_eq_some.mp hr
    exact ⟨[], r.written, [], hcs, Regex.patternMatches_whole.mpr ⟨rfl, rfl, _, hwrites, rfl⟩⟩
  · rintro ⟨before, found, behind, hcs, h⟩
    obtain ⟨rfl, rfl, name', hwrites, hgroups⟩ := Regex.patternMatches_whole.mp h
    cases hgroups
    refine ⟨⟨name, found⟩, ?_, rfl⟩
    rw [hcs, List.nil_append, Reference.at?_of_writes hwrites, String.ofList_toList]

/-! ## §3. Replacing references by texts. -/

/-- What stands for a piece in the end: a reference gives way to the text of its value, and stays
as it is written where it has none. -/
def Piece.filled (stack : ScopeStack) : Piece → List Char
  | .char c => [c]
  | .reference r => match stack.resolve? r.name with
    | some (v, _) => v.inlineText.toList
    | none => r.written

/-- The look-ups for the references among pieces. -/
def pieceLookUps (location : String) (ps : List Piece) : List LookUp :=
  (ps.filterMap (·.reference?)).map fun r => ⟨r.name, location⟩

/-- The pieces put together again with every reference replaced, and all its look-ups. -/
def replacePieces (stack : ScopeStack) (location : String) (ps : List Piece) :
    Replacement String :=
  ⟨String.ofList (ps.flatMap (·.filled stack)),
    (pieceLookUps location ps).flatMap fun l => (l.result stack).found,
    (pieceLookUps location ps).flatMap fun l => (l.result stack).missing⟩

/-- A replacement whose value is wanted as a text. -/
def Replacement.asText (r : Replacement Json) : Replacement String :=
  ⟨r.value.inlineText, r.found, r.missing⟩

/-- A name with a value is found. -/
theorem lookUp_of_resolve? {stack : ScopeStack} {location name : String} {v : Json} {scope : Scope}
    (h : stack.resolve? name = some (v, scope)) :
    lookUp stack location name = ⟨some v, [⟨name, v, scope.id⟩], []⟩ := by
  unfold lookUp
  rw [h]

theorem lookUp_of_none {stack : ScopeStack} {location name : String}
    (h : stack.resolve? name = none) :
    lookUp stack location name = ⟨none, [], [⟨name, location⟩]⟩ := by
  unfold lookUp
  rw [h]

section Replacing

variable (stack : ScopeStack) (location : String)

/-- The names of a text are those of its references. -/
theorem variableNames_eq (s : String) : variableNames s
    = ((pieces s.toList).filterMap (·.reference?)).map (·.name) := by
  unfold variableNames
  rw [List.map_filterMap]

/-- A text is filled piece by piece. -/
theorem substitutePieces_value (ps : List Piece) :
    (substitutePieces stack location ps).value = ps.flatMap (·.filled stack) := by
  induction ps with
  | nil => rfl
  | cons p rest ih =>
    cases p with
    | char c =>
      show c :: (substitutePieces stack location rest).value = c :: rest.flatMap (·.filled stack)
      rw [ih]
    | reference r =>
      cases hr : stack.resolve? r.name with
      | none =>
        simp [substitutePieces, Piece.filled, lookUp_of_none hr, hr, ih, bind, pure]
      | some found =>
        simp [substitutePieces, Piece.filled, lookUp_of_resolve? hr, hr, ih, bind, pure]

/-- A text is replaced by way of its pieces. -/
theorem substituteText_eq (s : String) :
    substituteText stack location s = replacePieces stack location (pieces s.toList) := by
  have hmakes := (substitutePieces_makes stack location (pieces s.toList)).map String.ofList
  have hls : (((pieces s.toList).filterMap fun p => p.reference?.map (·.name)).map
      fun name => (⟨name, location⟩ : LookUp)) = pieceLookUps location (pieces s.toList) := by
    unfold pieceLookUps
    rw [List.map_filterMap, List.map_filterMap]
    simp only [Option.map_map]
    rfl
  rw [hls] at hmakes
  unfold replacePieces
  rw [← substitutePieces_value stack location, ← hmakes.found, ← hmakes.missing]
  rfl

/-- **AS A TEXT** a string that is one reference is replaced as any other. -/
theorem asText_substituteString (s : String) :
    (substituteString stack location s).asText = substituteText stack location s := by
  unfold substituteString
  cases hwhole : wholeReference? s with
  | none =>
    show (⟨(substituteText stack location s).value, (substituteText stack location s).found ++ [],
      (substituteText stack location s).missing ++ []⟩ : Replacement String) = _
    rw [List.append_nil, List.append_nil]
  | some name =>
    obtain ⟨r, hr, rfl⟩ := wholeReference?_eq_some.mp hwhole
    have hwritten : r.written = s.toList := by rw [Reference.at?_eq hr, List.append_nil]
    rw [substituteText_eq, pieces_eq_singleton.mpr hr]
    -- the one look-up gives the value to both, or leaves the text to both
    cases hv : stack.resolve? r.name with
    | none =>
      simp [replacePieces, pieceLookUps, Replacement.asText, Piece.reference?, Piece.filled,
        LookUp.result, lookUp_of_none hv, hv, bind, pure, Json.inlineText, hwritten]
    | some found =>
      simp [replacePieces, pieceLookUps, Replacement.asText, Piece.reference?, Piece.filled,
        LookUp.result, lookUp_of_resolve? hv, hv, bind, pure]

/-- The template of a credential is replaced as a text. -/
theorem substituteCredential_eq (template : String) :
    substituteCredential template stack = substituteText stack "/credential" template := by
  rw [← asText_substituteString]
  show (⟨_, (substituteString stack "/credential" template).found ++ [],
    (substituteString stack "/credential" template).missing ++ []⟩ : Replacement String) = _
  rw [List.append_nil, List.append_nil]
  rfl

theorem substituteOptional_value (s : Option String) :
    (substituteOptional stack location s).value
      = s.map fun s => (substituteText stack location s).value := by
  cases s with
  | none => rfl
  | some s => rw [Option.map_some, ← asText_substituteString]; rfl

end Replacing

/-- **THE SHORTCUT FOR WHOLE REFERENCES** agrees with the scan wherever a text is wanted.  It is
taken where the bound pattern is found, which is where the scan has one match from end to end. -/
theorem substituteString_asText (stack : ScopeStack) (location s : String) :
    (substituteString stack location s).asText = substituteText stack location s ∧
    (∃ ps, Scan [] s.toList ps ∧
      substituteText stack location s = replacePieces stack location ps ∧
      variableNames s = (ps.filterMap (·.reference?)).map (·.name) ∧
      ∀ name, wholeReference? s = some name ↔
        variableNames s = [name] ∧ ∃ r, ps = [.reference r] ∧ r.written = s.toList) ∧
    (∀ name, wholeReference? s = some name ↔
      PatternFound wholePattern s.toList [(1, name.toList)]) ∧
    substituteCredential s stack = substituteText stack "/credential" s ∧
    ∀ t : Template,
      (substituteTemplate t stack).value.url
          = t.url.map (fun url => (substituteText stack "/url" url).value) ∧
        (substituteTemplate t stack).value.method
          = t.method.map fun method => (substituteText stack "/method" method).value := by
  refine ⟨asText_substituteString stack location s, ?_, fun name => wholeReference?_iff_found,
    substituteCredential_eq stack s, fun t => ⟨?_, ?_⟩⟩
  · exact ⟨pieces s.toList, scan_iff.mpr rfl, substituteText_eq stack location s,
      variableNames_eq s, fun name => wholeReference?_iff⟩
  · exact substituteOptional_value stack "/url" t.url
  · exact substituteOptional_value stack "/method" t.method

end ApiPlaybook
