/-
  ApiPlaybook.Template.Reference
  ──────────────────────────────
  **REFERENCES TO VARIABLES IN TEXTS.**

  A reference is a name between double braces, blanks around the name allowed:
  `{{ user.id }}`.  A text is cut from left to right into references and the
  characters between them; nothing is lost in that (`written_pieces`).
-/
import ApiPlaybook.Text.Blank

namespace ApiPlaybook

/-! ## §1. One reference. -/

/-- Characters of a variable's name. -/
def isNameChar (c : Char) : Bool :=
  c.isAlphanum || c == '_' || c == '-' || c == '.' || c == '$'

/-- A reference as it stands in a text. -/
structure Reference where
  name : String
  written : List Char
deriving DecidableEq, Inhabited

/-- The reference that a text starts with, and the text behind it. -/
def Reference.at? : List Char → Option (Reference × List Char)
  | '\x7b' :: '\x7b' :: rest =>
    let before := rest.takeWhile isBlank
    let inner := rest.dropWhile isBlank
    let name := inner.takeWhile isNameChar
    let behind := (inner.dropWhile isNameChar).takeWhile isBlank
    match name, (inner.dropWhile isNameChar).dropWhile isBlank with
    | _ :: _, '\x7d' :: '\x7d' :: after =>
      some (⟨String.ofList name,
        '\x7b' :: '\x7b' :: (before ++ name ++ behind ++ ['\x7d', '\x7d'])⟩, after)
    | _, _ => none
  | _ => none

/-- A reference and the text behind it make up the text it was read from. -/
theorem Reference.at?_eq {cs rest : List Char} {r : Reference}
    (h : Reference.at? cs = some (r, rest)) : cs = r.written ++ rest := by
  unfold Reference.at? at h
  split at h
  · next tail =>
    simp only at h
    split at h
    · next c more after hname hrest =>
      simp only [Option.some.injEq, Prod.mk.injEq] at h
      obtain ⟨rfl, rfl⟩ := h
      have e1 := List.takeWhile_append_dropWhile (p := isBlank) (l := tail)
      have e2 := List.takeWhile_append_dropWhile (p := isNameChar)
        (l := tail.dropWhile isBlank)
      have e3 := List.takeWhile_append_dropWhile (p := isBlank)
        (l := (tail.dropWhile isBlank).dropWhile isNameChar)
      rw [hrest] at e3
      conv => lhs; rw [← e1, ← e2, ← e3]
      simp
    · simp at h
  · simp at h

/-- A reference is not empty, so the text behind it is shorter. -/
theorem Reference.at?_length {cs rest : List Char} {r : Reference}
    (h : Reference.at? cs = some (r, rest)) : rest.length < cs.length := by
  have e := Reference.at?_eq h
  have hw : r.written ≠ [] := by
    unfold Reference.at? at h
    split at h
    · simp only at h
      split at h
      · simp only [Option.some.injEq, Prod.mk.injEq] at h
        obtain ⟨rfl, _⟩ := h
        simp
      · simp at h
    · simp at h
  have := List.length_pos_iff.2 hw
  rw [e, List.length_append]
  omega

/-! ## §2. Cutting a text. -/

/-- A piece of a text. -/
inductive Piece where
  | char (c : Char)
  | reference (r : Reference)
deriving DecidableEq, Inhabited

/-- How a piece is written. -/
def Piece.written : Piece → List Char
  | .char c => [c]
  | .reference r => r.written

/-- The pieces of a text, from left to right. -/
def pieces (cs : List Char) : List Piece :=
  match cs with
  | [] => []
  | c :: tail =>
    match _h : Reference.at? (c :: tail) with
    | some (r, rest) => .reference r :: pieces rest
    | none => .char c :: pieces tail
termination_by cs.length
decreasing_by
  · exact Reference.at?_length ‹_›
  · simp

theorem pieces_nil : pieces [] = [] := by rw [pieces]

/-- Where a reference stands, it is a piece. -/
theorem pieces_of_reference {cs rest : List Char} {r : Reference}
    (h : Reference.at? cs = some (r, rest)) : pieces cs = .reference r :: pieces rest := by
  cases cs with
  | nil => cases h
  | cons c tail =>
    rw [pieces]
    split
    · next r' rest' hr' =>
      rw [h] at hr'
      cases hr'
      rfl
    · next hnone =>
      rw [h] at hnone
      cases hnone

/-- Where none stands, the character is a piece. -/
theorem pieces_of_char {c : Char} {tail : List Char} (h : Reference.at? (c :: tail) = none) :
    pieces (c :: tail) = .char c :: pieces tail := by
  rw [pieces]
  split
  · next r rest hr =>
    rw [h] at hr
    cases hr
  · rfl

/-- The pieces of a text, put together again, are the text. -/
theorem written_pieces (cs : List Char) : (pieces cs).flatMap Piece.written = cs := by
  induction cs using pieces.induct with
  | case1 => rw [pieces_nil, List.flatMap_nil]
  | case2 c tail r rest h ih =>
    rw [pieces_of_reference h, List.flatMap_cons, ih]
    exact (Reference.at?_eq h).symm
  | case3 c tail h ih =>
    rw [pieces_of_char h, List.flatMap_cons, ih]
    rfl

/-- The reference of a piece. -/
def Piece.reference? : Piece → Option Reference
  | .char _ => none
  | .reference r => some r

/-- The names of the references in a text, in order. -/
def variableNames (s : String) : List String :=
  (pieces s.toList).filterMap fun p => p.reference?.map (·.name)

/-- The name, when a text is one reference and nothing else. -/
def wholeReference? (s : String) : Option String :=
  match Reference.at? s.toList with
  | some (r, []) => some r.name
  | _ => none

end ApiPlaybook
