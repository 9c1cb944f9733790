/-
  ApiPlaybook.Json.Basic
  ──────────────────────
  **JSON VALUES.**

  Free values of a playbook, message bodies and API descriptions are JSON.
  A number is an integer when it is written as one and fits 64 bits, signed or
  unsigned, and a double otherwise.  The members of an object are kept in name
  order, one for each name (`Json.IsOrdered`).
-/
import ApiPlaybook.NameMap
import ApiPlaybook.Number.Binary64

namespace ApiPlaybook

/-- A JSON number. -/
inductive Number where
  /-- An integer of 64 bits, signed or unsigned. -/
  | integer (i : Int)
  /-- Any other number. -/
  | float (x : Binary64)
deriving DecidableEq, Inhabited

/-- A JSON value. -/
inductive Json where
  | null
  | bool (b : Bool)
  | number (n : Number)
  | string (s : String)
  | array (items : List Json)
  /-- The members, in name order. -/
  | object (members : List (String × Json))
deriving Inhabited, BEq

namespace Json

/-- The object with the members of the list; the last one of a name counts. -/
def ofMembers (members : List (String × Json)) : Json :=
  .object (members.foldl (fun acc m => insertEntry m.1 m.2 acc) [])

/-- The object of a map. -/
def ofNameMap (m : NameMap Json) : Json := .object m.entries

/-- An integer value. -/
def ofInt (i : Int) : Json := .number (.integer i)

/-- The member of an object; other values have none. -/
def member? : Json → String → Option Json
  | .object members, name => findEntry name members
  | _, _ => none

def asString? : Json → Option String
  | .string s => some s
  | _ => none

def asBool? : Json → Option Bool
  | .bool b => some b
  | _ => none

def asArray? : Json → Option (List Json)
  | .array items => some items
  | _ => none

def asObject? : Json → Option (List (String × Json))
  | .object members => some members
  | _ => none

mutual

/-- Every object of the value has its members in name order. -/
def IsOrdered : Json → Prop
  | .array items => AllOrdered items
  | .object members => InNameOrder members ∧ AllMembersOrdered members
  | _ => True

/-- Every item is ordered. -/
def AllOrdered : List Json → Prop
  | [] => True
  | item :: rest => IsOrdered item ∧ AllOrdered rest

/-- The value of every member is ordered. -/
def AllMembersOrdered : List (String × Json) → Prop
  | [] => True
  | (_, value) :: rest => IsOrdered value ∧ AllMembersOrdered rest

end

end Json

end ApiPlaybook
