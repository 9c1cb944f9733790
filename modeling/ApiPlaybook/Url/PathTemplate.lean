/-
  ApiPlaybook.Url.PathTemplate
  ────────────────────────────
  **PATHS WITH PLACEHOLDERS.**

  A path may hold placeholders: names between braces.  From left to right a
  placeholder reaches from a brace to the next closing one; a brace that is
  never closed is text like any other.  Nothing is lost in cutting a path into
  its pieces (`written_pathPieces`).  In place of a name stands its value, with
  every reserved character escaped.
-/
import ApiPlaybook.Json.Printer
import ApiPlaybook.Text.Blank
import ApiPlaybook.Url.Percent

namespace ApiPlaybook.Url

/-- A piece of a path. -/
inductive PathPiece where
  | literal (text : List Char)
  | placeholder (name : List Char)
deriving DecidableEq, Inhabited

/-- How a piece is written. -/
def PathPiece.written : PathPiece → List Char
  | .literal text => text
  | .placeholder name => '\x7b' :: (name ++ ['\x7d'])

/-- The first placeholder of a path, with the text before it and the text
behind it. -/
def firstPlaceholder? (cs : List Char) : Option (List Char × List Char × List Char) := do
  let (front, rest) ← splitFirst '\x7b' cs
  let (name, behind) ← splitFirst '\x7d' rest
  return (front, name, behind)

/-- The parts around a placeholder and the placeholder make up the text. -/
theorem firstPlaceholder?_eq {cs front name behind : List Char}
    (h : firstPlaceholder? cs = some (front, name, behind)) :
    cs = front ++ (PathPiece.placeholder name).written ++ behind := by
  unfold firstPlaceholder? at h
  obtain ⟨⟨f, r⟩, hf, h⟩ := Option.bind_eq_some_iff.1 h
  obtain ⟨⟨n, b⟩, hn, h⟩ := Option.bind_eq_some_iff.1 h
  simp only [pure, Option.some.injEq, Prod.mk.injEq] at h
  obtain ⟨rfl, rfl, rfl⟩ := h
  rw [splitFirst_eq hf, splitFirst_eq hn]
  simp [PathPiece.written]

/-- The text behind a placeholder is shorter. -/
theorem firstPlaceholder?_length {cs front name behind : List Char}
    (h : firstPlaceholder? cs = some (front, name, behind)) : behind.length < cs.length := by
  rw [firstPlaceholder?_eq h]
  simp [PathPiece.written]
  omega

/-- The pieces of a path, from left to right. -/
def pathPieces (cs : List Char) : List PathPiece :=
  match _h : firstPlaceholder? cs with
  | some (front, name, behind) => .literal front :: .placeholder name :: pathPieces behind
  | none => [.literal cs]
termination_by cs.length
decreasing_by exact firstPlaceholder?_length ‹_›

/-- The pieces of a path, put together again, are the path. -/
theorem written_pathPieces (cs : List Char) : (pathPieces cs).flatMap PathPiece.written = cs := by
  induction cs using pathPieces.induct with
  | case1 cs front name behind h ih =>
    rw [pathPieces]
    split
    · next f n b h' =>
      rw [h] at h'
      simp only [Option.some.injEq, Prod.mk.injEq] at h'
      obtain ⟨rfl, rfl, rfl⟩ := h'
      simp only [List.flatMap_cons, ih]
      conv => rhs; rw [firstPlaceholder?_eq h]
      simp [PathPiece.written]
    · next h' => simp [h] at h'
  | case2 cs h =>
    rw [pathPieces]
    split
    · next h' => simp [h] at h'
    · simp [PathPiece.written]

/-- The text of a value in a path. -/
def pathValue (j : Json) : List Char := escapeAllReserved j.inlineText.toList

/-- What a piece becomes; a name without a value stays as it is written, or is
given back where all values are needed. -/
def PathPiece.fill (values : NameMap Json) (needAll : Bool) : PathPiece → Except String (List Char)
  | .literal text => .ok text
  | .placeholder name =>
    match values.get? (String.ofList name) with
    | some v => .ok (pathValue v)
    | none =>
      if needAll then .error (String.ofList name) else .ok (PathPiece.placeholder name).written

/-- A path with values in place of its placeholders; an error gives the first
name without a value. -/
def fillPath (values : NameMap Json) (needAll : Bool) (path : String) : Except String String := do
  return String.ofList (← (pathPieces path.toList).mapM (PathPiece.fill values needAll)).flatten

end ApiPlaybook.Url
