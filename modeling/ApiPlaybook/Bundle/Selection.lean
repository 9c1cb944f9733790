/-
  ApiPlaybook.Bundle.Selection
  ────────────────────────────
  **WHICH RULES APPLY TO A RESPONSE.**

  Rules are kept under a status, a category of statuses or `default`, in any
  case and with blanks around.  The rules for the very status go before those
  for its category, and these before the default ones.
-/
import ApiPlaybook.Bundle.Basic

namespace ApiPlaybook

/-- The keys that apply to a status, the closest first. -/
def selectionKeys (status : Nat) : List String :=
  [decimal status, statusCategory status, "default"]

/-- The first rules, in the order of keys, whose key is that one but for case and the blanks
around it. -/
def Responses.findNormal? (rs : Responses) (key : String) : Option ResponseRules :=
  (rs.find? fun k => sameIgnoringCase (trimBlanks k) key).map (·.2)

/-- The rules for a status. -/
def Responses.select? (rs : Responses) (status : Nat) : Option ResponseRules :=
  (selectionKeys status).findSome? rs.findNormal?

/-- Rules that are selected are among all of them. -/
theorem Responses.select?_mem {rs : Responses} {status : Nat} {rules : ResponseRules}
    (h : rs.select? status = some rules) : rules ∈ rs.values := by
  obtain ⟨key, -, hkey⟩ := List.exists_of_findSome?_eq_some h
  unfold Responses.findNormal? at hkey
  obtain ⟨entry, hentry, rfl⟩ := Option.map_eq_some_iff.mp hkey
  exact List.mem_map.mpr ⟨entry, List.mem_of_find?_eq_some hentry, rfl⟩

end ApiPlaybook
