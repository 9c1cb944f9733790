/-
  ApiPlaybook.Proofs.Template.Filled
  ──────────────────────────────────
  **WHAT A SUBSTITUTION MAKES OF A VALUE.**

  A substitution keeps the shape of a value and fills its strings
  (`Json.Filled`): a string that is one reference to a name with a value becomes
  that value, and in any other string each reference gives way to the text of its
  value.  What stands for a reference is never scanned again.

  Its records answer the references of the strings, in the order in which these
  stand in the value (`Answered`): each reference is found once, with its value in
  the innermost scope that has the name, or is missing once, with the place of its
  string.  Both together are `substitute_fills`.
-/
import ApiPlaybook.Proofs.Template.Scan

namespace ApiPlaybook

/-! ## §1. The innermost scope that has a name. -/

namespace ScopeStack

/-- The scope has this value for the name, and none of the scopes inside it has one. -/
def Innermost (stack : ScopeStack) (name : String) (v : Json) (scope : Scope) : Prop :=
  ∃ outer inner, stack = outer ++ scope :: inner ∧ scope.vars.get? name = some v ∧
    ∀ s ∈ inner, s.vars.get? name = none

/-- No scope has a value for the name. -/
def Lacks (stack : ScopeStack) (name : String) : Prop := ∀ s ∈ stack, s.vars.get? name = none

/-- A name is resolved in the innermost scope that has it. -/
theorem resolve?_eq_some {stack : ScopeStack} {name : String} {v : Json} {scope : Scope} :
    stack.resolve? name = some (v, scope) ↔ stack.Innermost name v scope := by
  unfold resolve?
  rw [List.findSome?_eq_some_iff]
  constructor
  · rintro ⟨inside, s, outside, hsplit, hs, hinside⟩
    obtain ⟨v', hv, hpair⟩ := Option.map_eq_some_iff.mp hs
    cases hpair
    refine ⟨outside.reverse, inside.reverse, ?_, hv, ?_⟩
    · rw [← List.reverse_reverse stack, hsplit]
      simp
    · intro s hs
      exact Option.map_eq_none_iff.mp (hinside s (List.mem_reverse.mp hs))
  · rintro ⟨outer, inner, rfl, hv, hinner⟩
    refine ⟨inner.reverse, scope, outer.reverse, by simp, by rw [hv]; rfl, ?_⟩
    intro s hs
    rw [hinner s (List.mem_reverse.mp hs)]
    rfl

/-- It is not resolved when no scope has it. -/
theorem resolve?_eq_none {stack : ScopeStack} {name : String} :
    stack.resolve? name = none ↔ stack.Lacks name := by
  unfold resolve? Lacks
  simp only [List.findSome?_eq_none_iff, List.mem_reverse, Option.map_eq_none_iff]

end ScopeStack

/-! ## §2. Look-ups and their answers. -/

/-- Records that answer look-ups, each by one item, in their order. -/
inductive Answered (stack : ScopeStack) :
    List LookUp → List FoundVariable → List MissingVariable → Prop
  | nil : Answered stack [] [] []
  | found {l : LookUp} {ls : List LookUp} {v : Json} {scope : Scope} {found : List FoundVariable}
    {missing : List MissingVariable} (h : stack.Innermost l.name v scope)
    (hrest : Answered stack ls found missing) :
    Answered stack (l :: ls) (⟨l.name, v, scope.id⟩ :: found) missing
  | missing {l : LookUp} {ls : List LookUp} {found : List FoundVariable}
    {missing : List MissingVariable} (h : stack.Lacks l.name)
    (hrest : Answered stack ls found missing) :
    Answered stack (l :: ls) found (⟨l.name, l.location⟩ :: missing)

namespace Answered

variable {stack : ScopeStack} {ls : List LookUp} {found : List FoundVariable}
  {missing : List MissingVariable}

/-- As many records as look-ups. -/
theorem length_eq (h : Answered stack ls found missing) :
    found.length + missing.length = ls.length := by
  induction h with
  | nil => rfl
  | found _ _ ih => simp only [List.length_cons]; omega
  | missing _ _ ih => simp only [List.length_cons]; omega

/-- Where nothing is missing, each name has a value. -/
theorem all_found (h : Answered stack ls found []) {l : LookUp} (hl : l ∈ ls) :
    ∃ v scope, stack.Innermost l.name v scope := by
  generalize hm : ([] : List MissingVariable) = missing at h
  induction h with
  | nil => cases hl
  | found h _ ih =>
    rcases List.mem_cons.mp hl with rfl | hl
    · exact ⟨_, _, h⟩
    · exact ih hl hm
  | missing => cases hm

end Answered

/-- What look-ups give answers them one by one. -/
theorem Replacement.Makes.answered {α : Type} {stack : ScopeStack} {ls : List LookUp}
    {r : Replacement α} (h : r.Makes stack ls) : Answered stack ls r.found r.missing := by
  rw [h.found, h.missing]
  clear h
  induction ls with
  | nil => exact .nil
  | cons l ls ih =>
    rw [List.flatMap_cons, List.flatMap_cons]
    unfold LookUp.result at ih ⊢
    cases hr : stack.resolve? l.name with
    | some found =>
      rw [lookUp_of_resolve? hr]
      exact .found (ScopeStack.resolve?_eq_some.mp hr) ih
    | none =>
      rw [lookUp_of_none hr]
      exact .missing (ScopeStack.resolve?_eq_none.mp hr) ih

/-! ## §3. The strings of a value. -/

/-- A string inside a value. -/
structure Leaf where
  text : String
  location : String
deriving DecidableEq, Inhabited

/-- One look-up for each name that is referred to. -/
def Leaf.lookUps (l : Leaf) : List LookUp := textLookUps l.location l.text

mutual

/-- The strings of a value, in the order in which they stand in it. -/
def Json.leaves (location : String) : Json → List Leaf
  | .string s => [⟨s, location⟩]
  | .array items => itemLeaves location 0 items
  | .object members => memberLeaves location members
  | _ => []

/-- Those of the items from index `i` on. -/
def itemLeaves (location : String) (i : Nat) : List Json → List Leaf
  | [] => []
  | item :: rest => item.leaves (location ++ "/" ++ decimal i) ++ itemLeaves location (i + 1) rest

def memberLeaves (location : String) : List (String × Json) → List Leaf
  | [] => []
  | (name, item) :: rest => item.leaves (location ++ "/" ++ name) ++ memberLeaves location rest

end

mutual

/-- The look-ups of a value are those of its leaves. -/
theorem Json.lookUps_eq (location : String) (j : Json) :
    j.lookUps location = (j.leaves location).flatMap Leaf.lookUps := by
  cases j with
  | string s =>
    rw [Json.leaves, List.flatMap_singleton]
    rfl
  | array items => exact itemLookUps_eq location 0 items
  | object members => exact memberLookUps_eq location members
  | null => rfl
  | bool b => rfl
  | number n => rfl

theorem itemLookUps_eq (location : String) (i : Nat) (items : List Json) :
    itemLookUps location i items = (itemLeaves location i items).flatMap Leaf.lookUps := by
  cases items with
  | nil => rfl
  | cons item rest =>
    rw [itemLookUps, itemLeaves, List.flatMap_append, Json.lookUps_eq _ item,
      itemLookUps_eq location (i + 1) rest]

theorem memberLookUps_eq (location : String) (members : List (String × Json)) :
    memberLookUps location members = (memberLeaves location members).flatMap Leaf.lookUps := by
  cases members with
  | nil => rfl
  | cons head rest =>
    rw [memberLookUps, memberLeaves, List.flatMap_append, Json.lookUps_eq _ head.2,
      memberLookUps_eq location rest]

end

/-! ## §4. Values that are filled. -/

/-- What becomes of a string: the value itself, where the string is one reference to a name with
a value, and otherwise its pieces, filled. -/
inductive StringFilled (stack : ScopeStack) (s : String) : Json → Prop
  | value {r : Reference} {v : Json} {scope : Scope} (hs : Scan [] s.toList [.reference r])
    (hr : stack.Innermost r.name v scope) : StringFilled stack s v
  | text {ps : List Piece} (hs : Scan [] s.toList ps)
    (hr : ∀ r, ps = [.reference r] → stack.Lacks r.name) :
    StringFilled stack s (.string (String.ofList (ps.flatMap (·.filled stack))))

mutual

/-- A value of the same shape, with the strings filled. -/
inductive Json.Filled (stack : ScopeStack) : Json → Json → Prop
  | string {s : String} {v : Json} (h : StringFilled stack s v) : Json.Filled stack (.string s) v
  | array {items vs : List Json} (h : ItemsFilled stack items vs) :
    Json.Filled stack (.array items) (.array vs)
  | object {members vs : List (String × Json)} (h : MembersFilled stack members vs) :
    Json.Filled stack (.object members) (.object vs)
  | null : Json.Filled stack .null .null
  | bool (b : Bool) : Json.Filled stack (.bool b) (.bool b)
  | number (n : Number) : Json.Filled stack (.number n) (.number n)

/-- As many items, each filled. -/
inductive ItemsFilled (stack : ScopeStack) : List Json → List Json → Prop
  | nil : ItemsFilled stack [] []
  | cons {item v : Json} {rest vs : List Json} (h : Json.Filled stack item v)
    (hrest : ItemsFilled stack rest vs) : ItemsFilled stack (item :: rest) (v :: vs)

/-- The same names, each with its value filled. -/
inductive MembersFilled (stack : ScopeStack) :
    List (String × Json) → List (String × Json) → Prop
  | nil : MembersFilled stack [] []
  | cons {name : String} {item v : Json} {rest vs : List (String × Json)}
    (h : Json.Filled stack item v) (hrest : MembersFilled stack rest vs) :
    MembersFilled stack ((name, item) :: rest) ((name, v) :: vs)

end

section Filled

variable {stack : ScopeStack}

/-- A string that is one reference becomes its value. -/
theorem substituteString_of_value (location : String) {s : String} {r : Reference} {v : Json}
    {scope : Scope} (hs : pieces s.toList = [.reference r])
    (hr : stack.resolve? r.name = some (v, scope)) :
    (substituteString stack location s).value = v := by
  have hwhole : wholeReference? s = some r.name :=
    wholeReference?_eq_some.mpr ⟨r, pieces_eq_singleton.mp hs, rfl⟩
  unfold substituteString
  rw [hwhole]
  show ((lookUp stack location r.name).value.getD (.string s)) = v
  rw [lookUp_of_resolve? hr]
  rfl

/-- Any other string becomes a text, piece by piece. -/
theorem substituteString_of_text (location : String) {s : String}
    (h : ∀ r, pieces s.toList = [.reference r] → stack.resolve? r.name = none) :
    (substituteString stack location s).value
      = .string (String.ofList ((pieces s.toList).flatMap (·.filled stack))) := by
  unfold substituteString
  cases hwhole : wholeReference? s with
  | none =>
    show Json.string (substituteText stack location s).value = _
    rw [substituteText_eq]
    rfl
  | some name =>
    -- the name has no value, and the text stays as it is written
    obtain ⟨r, hr, rfl⟩ := wholeReference?_eq_some.mp hwhole
    have hpieces := pieces_eq_singleton.mpr hr
    have hnone := h r hpieces
    have hwritten : s.toList = r.written := by rw [Reference.at?_eq hr, List.append_nil]
    show (lookUp stack location r.name).value.getD (.string s) = _
    rw [lookUp_of_none hnone, hpieces, List.flatMap_singleton, Piece.filled, hnone, ← hwritten,
      String.ofList_toList]
    rfl

/-- There is one way to fill a string, and it is that of the substitution. -/
theorem stringFilled_iff (location : String) {s : String} {v : Json} :
    StringFilled stack s v ↔ v = (substituteString stack location s).value := by
  constructor
  · intro h
    cases h with
    | value hs hr =>
      have hpieces := (scan_iff.mp hs).symm
      exact (substituteString_of_value location hpieces (ScopeStack.resolve?_eq_some.mpr hr)).symm
    | text hs hr =>
      have hpieces := scan_iff.mp hs
      subst hpieces
      exact (substituteString_of_text location fun r hps =>
        ScopeStack.resolve?_eq_none.mpr (hr r hps)).symm
  · rintro rfl
    -- only a reference that is alone, and has a value, is replaced by it
    by_cases hvalue : ∃ r found, pieces s.toList = [.reference r] ∧
        stack.resolve? r.name = some found
    · obtain ⟨r, ⟨v, scope⟩, hps, hr⟩ := hvalue
      rw [substituteString_of_value location hps hr]
      exact .value (scan_iff.mpr hps.symm) (ScopeStack.resolve?_eq_some.mp hr)
    · have hnone : ∀ r, pieces s.toList = [.reference r] → stack.resolve? r.name = none := by
        intro r hps
        by_contra hr
        obtain ⟨found, hfound⟩ := Option.ne_none_iff_exists'.mp hr
        exact hvalue ⟨r, found, hps, hfound⟩
      rw [substituteString_of_text location hnone]
      exact .text (scan_iff.mpr rfl) fun r hps => ScopeStack.resolve?_eq_none.mp (hnone r hps)

mutual

/-- **FILLING IN KEEPS THE SHAPE**: a value becomes one that is filled. -/
theorem substitute_filled (location : String) (j : Json) :
    Json.Filled stack j (substitute stack location j).value := by
  cases j with
  | string s => exact .string ((stringFilled_iff location).mpr rfl)
  | array items => exact .array (substituteItems_filled location 0 items)
  | object members => exact .object (substituteMembers_filled location members)
  | null => exact .null
  | bool b => exact .bool b
  | number n => exact .number n

theorem substituteItems_filled (location : String) (i : Nat) (items : List Json) :
    ItemsFilled stack items (substituteItems stack location i items).value := by
  cases items with
  | nil => exact .nil
  | cons item rest =>
    exact .cons (substitute_filled _ item) (substituteItems_filled location (i + 1) rest)

theorem substituteMembers_filled (location : String) (members : List (String × Json)) :
    MembersFilled stack members (substituteMembers stack location members).value := by
  cases members with
  | nil => exact .nil
  | cons head rest =>
    exact .cons (substitute_filled _ head.2) (substituteMembers_filled location rest)

end

mutual

/-- There is no other way to fill a value than to substitute. -/
theorem Json.Filled.eq_substitute {j v : Json} (location : String) (h : Json.Filled stack j v) :
    v = (substitute stack location j).value := by
  cases h with
  | string h => exact (stringFilled_iff location).mp h
  | array h => exact congrArg Json.array (h.eq_substituteItems location 0)
  | object h => exact congrArg Json.object (h.eq_substituteMembers location)
  | null => rfl
  | bool b => rfl
  | number n => rfl

theorem ItemsFilled.eq_substituteItems {items vs : List Json} (location : String) (i : Nat)
    (h : ItemsFilled stack items vs) : vs = (substituteItems stack location i items).value := by
  cases h with
  | nil => rfl
  | cons h hrest =>
    exact congrArg₂ List.cons (h.eq_substitute (location ++ "/" ++ decimal i))
      (hrest.eq_substituteItems location (i + 1))

theorem MembersFilled.eq_substituteMembers {members vs : List (String × Json)}
    (location : String) (h : MembersFilled stack members vs) :
    vs = (substituteMembers stack location members).value := by
  cases h with
  | nil => rfl
  | @cons name _ _ _ _ h hrest =>
    exact congrArg₂ (fun v vs => (name, v) :: vs) (h.eq_substitute (location ++ "/" ++ name))
      (hrest.eq_substituteMembers location)

end

/-- There is one value that a value is filled to, and the substitution gives it. -/
theorem filled_iff (location : String) {j v : Json} :
    Json.Filled stack j v ↔ v = (substitute stack location j).value := by
  constructor
  · intro h
    exact h.eq_substitute location
  · rintro rfl
    exact substitute_filled location j

end Filled

/-! ## §5. The variables of a scope. -/

section Scopes

variable (stack : ScopeStack) (location : String)

/-- Members are filled one by one, each at its own place. -/
theorem substituteMembers_value (members : List (String × Json)) :
    (substituteMembers stack location members).value
      = members.map fun m => (m.1, (substitute stack (location ++ "/" ++ m.1) m.2).value) := by
  induction members with
  | nil => rfl
  | cons head rest ih =>
    rw [List.map_cons, ← ih]
    rfl

/-- What is found is found member by member. -/
theorem substituteMembers_found (members : List (String × Json)) :
    (substituteMembers stack location members).found
      = members.flatMap fun m => (substitute stack (location ++ "/" ++ m.1) m.2).found := by
  induction members with
  | nil => rfl
  | cons head rest ih =>
    rw [List.flatMap_cons, ← ih]
    show _ ++ ((substituteMembers stack location rest).found ++ []) = _
    rw [List.append_nil]

theorem substituteMembers_missing (members : List (String × Json)) :
    (substituteMembers stack location members).missing
      = members.flatMap fun m => (substitute stack (location ++ "/" ++ m.1) m.2).missing := by
  induction members with
  | nil => rfl
  | cons head rest ih =>
    rw [List.flatMap_cons, ← ih]
    show _ ++ ((substituteMembers stack location rest).missing ++ []) = _
    rw [List.append_nil]

/-- The values of a map are replaced each by itself. -/
theorem substituteMap_value (m : NameMap Json) : (substituteMap stack location m).value
    = m.mapValues fun name v => (substitute stack (location ++ "/" ++ name) v).value :=
  NameMap.ext_entries (substituteMembers_value stack location m.entries)

/-- So what a name has afterwards is filled from what it had. -/
theorem get?_substituteMap {m : NameMap Json} {name : String} {v : Json} :
    (substituteMap stack location m).value.get? name = some v ↔
      ∃ v₀, m.get? name = some v₀ ∧ Json.Filled stack v₀ v := by
  rw [substituteMap_value, NameMap.get?_mapValues, Option.map_eq_some_iff]
  constructor
  · rintro ⟨v₀, hv₀, hv⟩
    exact ⟨v₀, hv₀, (filled_iff _).mpr hv.symm⟩
  · rintro ⟨v₀, hv₀, hv⟩
    exact ⟨v₀, hv₀, ((filled_iff _).mp hv).symm⟩

end Scopes

/-- A scope made from given variables: each value is filled by itself, whatever the others are,
and the records are those of the values, one after the other. -/
structure ScopeFilled (stack : ScopeStack) (id : String) (vars : NameMap Json)
    (r : Replacement Scope) : Prop where
  named : r.value.id = id
  unassigned : r.value.assignments = []
  value : ∀ name v, r.value.vars.get? name = some v ↔
    ∃ v₀, vars.get? name = some v₀ ∧ Json.Filled stack v₀ v
  found : r.found = vars.entries.flatMap fun e =>
    (substitute stack ("/" ++ id ++ "/" ++ e.1) e.2).found
  missing : r.missing = vars.entries.flatMap fun e =>
    (substitute stack ("/" ++ id ++ "/" ++ e.1) e.2).missing

/-- A scope is filled, and keeps its names. -/
theorem substituteScope_filled (stack : ScopeStack) (id : String) (vars : NameMap Json) :
    ScopeFilled stack id vars (substituteScope id vars stack) := by
  refine ⟨rfl, rfl, fun name v => get?_substituteMap stack ("/" ++ id), ?_, ?_⟩
  · rw [← substituteMembers_found]
    exact List.append_nil _
  · rw [← substituteMembers_missing]
    exact List.append_nil _

/-- **A SUBSTITUTION FILLS A VALUE** and answers every reference in its strings once.  For the
variables of a scope it does so value by value. -/
theorem substitute_fills (stack : ScopeStack) (location : String) (j : Json) :
    (∀ v, Json.Filled stack j v ↔ v = (substitute stack location j).value) ∧
    Answered stack ((j.leaves location).flatMap Leaf.lookUps)
      (substitute stack location j).found (substitute stack location j).missing ∧
    ∀ (id : String) (vars : NameMap Json),
      ScopeFilled stack id vars (substituteScope id vars stack) ∧
      Answered stack ((memberLeaves ("/" ++ id) vars.entries).flatMap Leaf.lookUps)
        (substituteScope id vars stack).found (substituteScope id vars stack).missing := by
  refine ⟨fun v => filled_iff location, ?_, fun id vars => ⟨?_, ?_⟩⟩
  · rw [← Json.lookUps_eq]
    exact (substitute_makes stack location j).answered
  · exact substituteScope_filled stack id vars
  · rw [← memberLookUps_eq]
    exact (substituteScope_makes stack id vars).answered

/-- A value that looks like a reference is put in as it is. -/
example : (substitute [.ofVariables "e" (.ofList [("x", .string "\x7b\x7bx\x7d\x7d")])] "/v"
    (.string "a \x7b\x7b x \x7d\x7d")).value.asString? = some "a \x7b\x7bx\x7d\x7d" := by
  cbv

end ApiPlaybook
