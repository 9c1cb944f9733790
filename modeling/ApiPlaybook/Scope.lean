/-
  ApiPlaybook.Scope
  ─────────────────
  **LAYERED VARIABLE SCOPES.**

  Variables live in scopes, and scopes are stacked from the outermost to the
  innermost.  A name is looked up from the inside outwards, so an inner scope
  hides what the outer ones call by the same name.  A stack is never changed:
  an inner stack is a longer list.
-/
import ApiPlaybook.Json.Basic

namespace ApiPlaybook

/-- A variable set by an extraction rule. -/
structure Assignment where
  name : String
  value : Json
deriving Inhabited, BEq

/-- A layer of variables. -/
structure Scope where
  /-- What the layer is called where the origin of a value is told. -/
  id : String
  vars : NameMap Json
  /-- The variables that extraction rules set, in the order in which they did. -/
  assignments : List Assignment
deriving Inhabited, BEq

namespace Scope

/-- A scope of given variables, none of them extracted. -/
def ofVariables (id : String) (vars : NameMap Json) : Scope := ⟨id, vars, []⟩

/-- A scope without variables. -/
def empty (id : String) : Scope := ofVariables id .empty

/-- Set a variable from an extraction rule. -/
def assign (s : Scope) (name : String) (value : Json) : Scope :=
  { s with
    vars := s.vars.insert name value
    assignments := s.assignments ++ [⟨name, value⟩] }

end Scope

/-- Scopes from the outermost to the innermost. -/
abbrev ScopeStack := List Scope

namespace ScopeStack

/-- The value of a name with the innermost scope that has one. -/
def resolve? (stack : ScopeStack) (name : String) : Option (Json × Scope) :=
  stack.reverse.findSome? fun scope => (scope.vars.get? name).map fun v => (v, scope)

/-- The value of every name that the stack defines. -/
def latestValues (stack : ScopeStack) : NameMap Json :=
  stack.foldl (fun acc scope => acc.union scope.vars) .empty

end ScopeStack

end ApiPlaybook
