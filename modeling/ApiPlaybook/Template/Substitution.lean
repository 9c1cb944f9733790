/-
  ApiPlaybook.Template.Substitution
  ─────────────────────────────────
  **REPLACING REFERENCES BY VALUES.**

  Every string inside a value is a text with references.  A string that is one
  reference becomes the value itself, whatever its type; in any other string
  each reference becomes the text of its value.  A name without a value stays
  as it is written.  Every look-up is recorded, as found or as missing, in the
  order in which the references are met.
-/
import ApiPlaybook.Bundle.Basic
import ApiPlaybook.Json.Printer
import ApiPlaybook.Template.Reference

namespace ApiPlaybook

/-! ## §1. Records of look-ups. -/

/-- A name that had a value. -/
structure FoundVariable where
  name : String
  value : Json
  /-- The scope that the value came from. -/
  origin : String
deriving Inhabited, BEq

/-- A name that had no value. -/
structure MissingVariable where
  name : String
  /-- Where the reference stands. -/
  location : String
deriving DecidableEq, Inhabited

/-- A result with the look-ups made for it. -/
structure Replacement (α : Type) where
  value : α
  found : List FoundVariable
  missing : List MissingVariable
deriving Inhabited

namespace Replacement

instance : Monad Replacement where
  pure v := ⟨v, [], []⟩
  bind r f :=
    let s := f r.value
    ⟨s.value, r.found ++ s.found, r.missing ++ s.missing⟩

/-- Whether every name had a value. -/
def isComplete {α : Type} (r : Replacement α) : Bool := r.missing.isEmpty

end Replacement

/-- The names that had no value, each once, in the order of their first
reference. -/
def missingNames (missing : List MissingVariable) : List String :=
  (missing.map (·.name)).foldl (fun acc n => if acc.contains n then acc else acc ++ [n]) []

/-- The names that had no value, separated by commas. -/
def missingNamesText (missing : List MissingVariable) : String :=
  ", ".intercalate (missingNames missing)

/-! ## §2. Values. -/

/-- Look a name up. -/
def lookUp (stack : ScopeStack) (location name : String) : Replacement (Option Json) :=
  match stack.resolve? name with
  | some (v, scope) => ⟨some v, [⟨name, v, scope.id⟩], []⟩
  | none => ⟨none, [], [⟨name, location⟩]⟩

/-- Replace the references among the pieces of a text. -/
def substitutePieces (stack : ScopeStack) (location : String) :
    List Piece → Replacement (List Char)
  | [] => pure []
  | .char c :: rest => do
    let tail ← substitutePieces stack location rest
    return c :: tail
  | .reference r :: rest => do
    let v ← lookUp stack location r.name
    let tail ← substitutePieces stack location rest
    return (match v with
      | some v => v.inlineText.toList
      | none => r.written) ++ tail

/-- Replace the references in a text by texts. -/
def substituteText (stack : ScopeStack) (location s : String) : Replacement String := do
  return String.ofList (← substitutePieces stack location (pieces s.toList))

/-- Replace the references in a string; a string that is one reference becomes
the value. -/
def substituteString (stack : ScopeStack) (location s : String) : Replacement Json :=
  match wholeReference? s with
  | some name => do return (← lookUp stack location name).getD (.string s)
  | none => do return .string (← substituteText stack location s)

mutual

/-- Replace the references in all strings of a value; names of members stay. -/
def substitute (stack : ScopeStack) (location : String) : Json → Replacement Json
  | .string s => substituteString stack location s
  | .array items => do return .array (← substituteItems stack location 0 items)
  | .object members => do return .object (← substituteMembers stack location members)
  | j => pure j

/-- The items from index `i` on. -/
def substituteItems (stack : ScopeStack) (location : String) (i : Nat) :
    List Json → Replacement (List Json)
  | [] => pure []
  | item :: rest => do
    let v ← substitute stack (location ++ "/" ++ decimal i) item
    let vs ← substituteItems stack location (i + 1) rest
    return v :: vs

def substituteMembers (stack : ScopeStack) (location : String) :
    List (String × Json) → Replacement (List (String × Json))
  | [] => pure []
  | (name, item) :: rest => do
    let v ← substitute stack (location ++ "/" ++ name) item
    let vs ← substituteMembers stack location rest
    return (name, v) :: vs

end

/-- Replacing values keeps the names of the members. -/
theorem substituteMembers_names (stack : ScopeStack) (location : String)
    (members : List (String × Json)) :
    (substituteMembers stack location members).value.map (·.1) = members.map (·.1) := by
  induction members with
  | nil => rfl
  | cons head rest ih =>
    simp only [substituteMembers, bind, pure, List.map_cons]
    rw [← ih]

/-! ## §3. What a request is made from. -/

/-- Replace the references in the values of a map. -/
def substituteMap (stack : ScopeStack) (location : String) (m : NameMap Json) :
    Replacement (NameMap Json) :=
  let r := substituteMembers stack location m.entries
  ⟨⟨r.value, by
    have h := List.pairwise_map.2 m.inOrder
    rw [← substituteMembers_names stack location m.entries] at h
    exact List.pairwise_map.1 h⟩, r.found, r.missing⟩

/-- A scope of variables whose values were substituted. -/
def substituteScope (id : String) (vars : NameMap Json) (stack : ScopeStack) :
    Replacement Scope := do
  return .ofVariables id (← substituteMap stack ("/" ++ id) vars)

/-- The text of a string whose references were replaced. -/
def substituteOptional (stack : ScopeStack) (location : String) :
    Option String → Replacement (Option String)
  | some s => do return some (← substituteString stack location s).inlineText
  | none => pure none

/-- Replace the references in the value of a body. -/
def substituteBody (stack : ScopeStack) : Option Body → Replacement (Option Body)
  | some b => do return some { b with value := ← substitute stack "/body" b.value }
  | none => pure none

/-- Replace the references in a request template: its URL and method, its
parameters and the value of its body. -/
def substituteTemplate (t : Template) (stack : ScopeStack) : Replacement Template := do
  let url ← substituteOptional stack "/url" t.url
  let method ← substituteOptional stack "/method" t.method
  let query ← substituteMap stack "/parameters/query" t.parameters.query
  let header ← substituteMap stack "/parameters/header" t.parameters.header
  let path ← substituteMap stack "/parameters/path" t.parameters.path
  let cookie ← substituteMap stack "/parameters/cookie" t.parameters.cookie
  let body ← substituteBody stack t.body
  return ⟨url, method, ⟨query, header, path, cookie⟩, body⟩

/-- The value of a credential from its template. -/
def substituteCredential (template : String) (stack : ScopeStack) : Replacement String := do
  return (← substituteString stack "/credential" template).inlineText

end ApiPlaybook
