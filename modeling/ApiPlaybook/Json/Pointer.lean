/-
  ApiPlaybook.Json.Pointer
  ────────────────────────
  **JSON POINTERS.**

  A pointer is a list of steps into a value, written `/step/step`; inside a
  step `~1` stands for a slash and `~0` for a tilde.  Following a pointer is
  recursion over its steps, so a pointer in two parts is followed part by part
  (`Json.follow?_append`).
-/
import ApiPlaybook.Json.Basic
import ApiPlaybook.Text.Blank

namespace ApiPlaybook

namespace Pointer

/-- A step as it is meant, from a step as it is written. -/
def unescape : List Char → List Char
  | '~' :: '1' :: rest => '/' :: unescape rest
  | '~' :: '0' :: rest => '~' :: unescape rest
  | c :: rest => c :: unescape rest
  | [] => []

/-- The steps of a written pointer; none unless it is empty or starts with a slash. -/
def steps? (cs : List Char) : Option (List String) :=
  match cs with
  | [] => some []
  | '/' :: rest => some ((splitAll '/' rest).map fun step => String.ofList (unescape step))
  | _ => none

/-- The index that a step denotes in an array: a decimal without a superfluous
leading zero. -/
def index? (step : String) : Option Nat :=
  match step.toList with
  | [] => none
  | '0' :: _ :: _ => none
  | cs =>
    if cs.all Char.isDigit then
      let n := Nat.ofDigitChars 10 cs 0
      if n < UInt64.size then some n else none
    else none

end Pointer

namespace Json

/-- One step into an object or an array. -/
def step? (j : Json) (step : String) : Option Json :=
  match j with
  | .object members => findEntry step members
  | .array items => (Pointer.index? step).bind fun i => items[i]?
  | _ => none

/-- The value that a list of steps leads to. -/
def follow? : Json → List String → Option Json
  | j, [] => some j
  | j, s :: rest => (j.step? s).bind fun k => k.follow? rest

/-- The value that a written pointer leads to. -/
def pointer? (j : Json) (pointer : String) : Option Json :=
  (Pointer.steps? pointer.toList).bind j.follow?

/-- A pointer is followed step by step. -/
theorem follow?_append (j : Json) (a b : List String) :
    j.follow? (a ++ b) = (j.follow? a).bind fun k => k.follow? b := by
  induction a generalizing j with
  | nil => rfl
  | cons s rest ih =>
    simp only [List.cons_append, follow?]
    cases j.step? s with
    | none => rfl
    | some k => simpa using ih k

end Json

end ApiPlaybook
