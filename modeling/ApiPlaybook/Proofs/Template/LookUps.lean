/-
  ApiPlaybook.Proofs.Template.LookUps
  ───────────────────────────────────
  **THE LOOK-UPS OF A SUBSTITUTION.**

  Which names a substitution looks up, in which order and for which place, is
  written in the value that it starts from (`Json.lookUps`); the scopes only
  decide what each look-up gives.  So what a substitution records is what these
  look-ups give, one after the other (`Replacement.Makes`):

      what was found was found in a scope of the stack (`Makes.backed`);
      two stacks in which the names have the same values give the same result
      (`substitute_congr`).
-/
import Mathlib.Data.List.Basic
import ApiPlaybook.Run.Stage

namespace ApiPlaybook

/-! ## §1. The look-ups that a value asks for. -/

/-- A name that is looked up for a place. -/
structure LookUp where
  name : String
  location : String
deriving DecidableEq, Inhabited

/-- What a look-up gives in a stack. -/
def LookUp.result (stack : ScopeStack) (l : LookUp) : Replacement (Option Json) :=
  lookUp stack l.location l.name

/-- What is missing depends on whether there is a value. -/
theorem LookUp.result_missing_eq {stack other : ScopeStack} (l : LookUp)
    (h : (stack.resolve? l.name).isSome = (other.resolve? l.name).isSome) :
    (l.result stack).missing = (l.result other).missing := by
  unfold LookUp.result lookUp
  cases hs : stack.resolve? l.name <;> cases ho : other.resolve? l.name <;>
    first | rfl | (rw [hs, ho] at h; cases h)

/-- One look-up for each reference in a text. -/
def textLookUps (location s : String) : List LookUp := (variableNames s).map (⟨·, location⟩)

mutual

/-- The look-ups for all strings of a value. -/
def Json.lookUps (location : String) : Json → List LookUp
  | .string s => textLookUps location s
  | .array items => itemLookUps location 0 items
  | .object members => memberLookUps location members
  | _ => []

/-- Those of the items from index `i` on. -/
def itemLookUps (location : String) (i : Nat) : List Json → List LookUp
  | [] => []
  | item :: rest =>
    item.lookUps (location ++ "/" ++ decimal i) ++ itemLookUps location (i + 1) rest

def memberLookUps (location : String) : List (String × Json) → List LookUp
  | [] => []
  | (name, item) :: rest =>
    item.lookUps (location ++ "/" ++ name) ++ memberLookUps location rest

end

/-- The look-ups for a text that may be absent. -/
def optionalLookUps (location : String) (s : Option String) : List LookUp :=
  s.toList.flatMap (textLookUps location)

/-- The look-ups for the variables of a scope. -/
def scopeLookUps (id : String) (vars : NameMap Json) : List LookUp :=
  memberLookUps ("/" ++ id) vars.entries

/-- The look-ups for a request template. -/
def Template.lookUps (t : Template) : List LookUp :=
  optionalLookUps "/url" t.url ++ optionalLookUps "/method" t.method
    ++ memberLookUps "/parameters/query" t.parameters.query.entries
    ++ memberLookUps "/parameters/header" t.parameters.header.entries
    ++ memberLookUps "/parameters/path" t.parameters.path.entries
    ++ memberLookUps "/parameters/cookie" t.parameters.cookie.entries
    ++ t.body.toList.flatMap (·.value.lookUps "/body")

/-! ## §2. What a substitution records. -/

/-- The records of a result are those of the look-ups. -/
structure Replacement.Makes {α : Type} (stack : ScopeStack) (ls : List LookUp)
    (r : Replacement α) : Prop where
  found : r.found = ls.flatMap fun l => (l.result stack).found
  missing : r.missing = ls.flatMap fun l => (l.result stack).missing

namespace Replacement.Makes

variable {α β : Type} {stack : ScopeStack} {ls ls' : List LookUp}

/-- A value by itself looks nothing up. -/
theorem pure (v : α) : Replacement.Makes stack [] (Pure.pure v : Replacement α) := ⟨rfl, rfl⟩

/-- The look-ups of one substitution and then those of the next. -/
theorem bind {r : Replacement α} {f : α → Replacement β} (h : r.Makes stack ls)
    (hf : ∀ v, (f v).Makes stack ls') : (r >>= f).Makes stack (ls ++ ls') := by
  constructor
  · show r.found ++ (f r.value).found = _
    rw [h.found, (hf r.value).found, List.flatMap_append]
  · show r.missing ++ (f r.value).missing = _
    rw [h.missing, (hf r.value).missing, List.flatMap_append]

/-- What follows looks nothing up. -/
theorem map {r : Replacement α} (h : r.Makes stack ls) (f : α → β) :
    (r >>= fun v => Pure.pure (f v)).Makes stack ls := by
  have h := h.bind fun v => pure (f v)
  rwa [List.append_nil] at h

/-- Whether names have a value does not depend on what it is. -/
theorem missing_eq {r : Replacement α} {other : ScopeStack} {r' : Replacement β}
    (h : r.Makes stack ls) (h' : r'.Makes other ls)
    (hr : ∀ l ∈ ls, (stack.resolve? l.name).isSome = (other.resolve? l.name).isSome) :
    r.missing = r'.missing := by
  rw [h.missing, h'.missing]
  exact List.flatMap_congr fun l hl => l.result_missing_eq (hr l hl)

end Replacement.Makes

section Makes

variable (stack : ScopeStack)

theorem lookUp_makes (location name : String) :
    (lookUp stack location name).Makes stack [⟨name, location⟩] := by
  constructor
  · exact (List.append_nil _).symm
  · exact (List.append_nil _).symm

/-- The references of a text, from left to right. -/
theorem substitutePieces_makes (location : String) (ps : List Piece) :
    (substitutePieces stack location ps).Makes stack
      ((ps.filterMap fun p => p.reference?.map (·.name)).map (⟨·, location⟩)) := by
  induction ps with
  | nil => exact .pure _
  | cons p rest ih =>
    cases p with
    | char ch => exact ih.map _
    | reference r => exact (lookUp_makes stack location r.name).bind fun _ => ih.map _

/-- A text that is one reference refers to one name. -/
theorem variableNames_of_whole {s name : String} (h : wholeReference? s = some name) :
    variableNames s = [name] := by
  unfold wholeReference? at h
  split at h
  · next r hr =>
    cases h
    unfold variableNames
    rw [pieces_of_reference hr, pieces_nil]
    rfl
  · cases h

/-- A string looks up its references, whether it is one or holds some. -/
theorem substituteString_makes (location s : String) :
    (substituteString stack location s).Makes stack (textLookUps location s) := by
  unfold substituteString textLookUps
  cases h : wholeReference? s with
  | some name =>
    rw [variableNames_of_whole h]
    exact (lookUp_makes stack location name).map _
  | none => exact ((substitutePieces_makes stack location _).map String.ofList).map Json.string

mutual

/-- **WHAT A SUBSTITUTION RECORDS** are the look-ups of the value it starts from. -/
theorem substitute_makes (location : String) (j : Json) :
    (substitute stack location j).Makes stack (j.lookUps location) := by
  cases j with
  | string s => exact substituteString_makes stack location s
  | array items => exact (substituteItems_makes location 0 items).map _
  | object members => exact (substituteMembers_makes location members).map _
  | null => exact .pure _
  | bool b => exact .pure _
  | number n => exact .pure _

/-- The items of an array, from the first to the last. -/
theorem substituteItems_makes (location : String) (i : Nat) (items : List Json) :
    (substituteItems stack location i items).Makes stack (itemLookUps location i items) := by
  cases items with
  | nil => exact .pure _
  | cons item rest =>
    refine (substitute_makes _ item).bind fun _ => ?_
    exact (substituteItems_makes location (i + 1) rest).map _

/-- The members of an object, in name order. -/
theorem substituteMembers_makes (location : String) (members : List (String × Json)) :
    (substituteMembers stack location members).Makes stack (memberLookUps location members) := by
  cases members with
  | nil => exact .pure _
  | cons head rest =>
    refine (substitute_makes _ head.2).bind fun _ => ?_
    exact (substituteMembers_makes location rest).map _

end

/-- A map is looked up as an object is. -/
theorem substituteMap_makes (location : String) (m : NameMap Json) :
    (substituteMap stack location m).Makes stack (memberLookUps location m.entries) :=
  ⟨(substituteMembers_makes stack location m.entries).found,
    (substituteMembers_makes stack location m.entries).missing⟩

theorem substituteOptional_makes (location : String) (s : Option String) :
    (substituteOptional stack location s).Makes stack (optionalLookUps location s) := by
  cases s with
  | none => exact .pure _
  | some s =>
    unfold optionalLookUps
    rw [Option.toList_some, List.flatMap_singleton]
    exact (substituteString_makes stack location s).map _

/-- A body looks up what its value does. -/
theorem substituteBody_makes (b : Option Body) :
    (substituteBody stack b).Makes stack (b.toList.flatMap (·.value.lookUps "/body")) := by
  cases b with
  | none => exact .pure _
  | some b =>
    rw [Option.toList_some, List.flatMap_singleton]
    exact (substitute_makes stack "/body" b.value).map _

/-- A template looks up its parts in their order. -/
theorem substituteTemplate_makes (t : Template) :
    (substituteTemplate t stack).Makes stack t.lookUps := by
  unfold substituteTemplate Template.lookUps
  simp only [List.append_assoc]
  refine (substituteOptional_makes stack "/url" t.url).bind fun _ => ?_
  refine (substituteOptional_makes stack "/method" t.method).bind fun _ => ?_
  refine (substituteMap_makes stack "/parameters/query" t.parameters.query).bind fun _ => ?_
  refine (substituteMap_makes stack "/parameters/header" t.parameters.header).bind fun _ => ?_
  refine (substituteMap_makes stack "/parameters/path" t.parameters.path).bind fun _ => ?_
  refine (substituteMap_makes stack "/parameters/cookie" t.parameters.cookie).bind fun _ => ?_
  exact (substituteBody_makes stack t.body).map _

/-- The template of a credential is a text. -/
theorem substituteCredential_makes (template : String) :
    (substituteCredential template stack).Makes stack (textLookUps "/credential" template) :=
  (substituteString_makes stack "/credential" template).map _

/-- The values of a scope are a map. -/
theorem substituteScope_makes (id : String) (vars : NameMap Json) :
    (substituteScope id vars stack).Makes stack (scopeLookUps id vars) :=
  (substituteMap_makes stack ("/" ++ id) vars).map _

end Makes

/-! ## §3. Values that were found. -/

namespace ScopeStack

/-- Each value was found in a scope of the stack. -/
def Backs (stack : ScopeStack) (found : List FoundVariable) : Prop :=
  ∀ f ∈ found, ∃ scope ∈ stack, scope.id = f.origin ∧ scope.vars.get? f.name = some f.value

theorem Backs.append {stack : ScopeStack} {x y : List FoundVariable} (hx : Backs stack x)
    (hy : Backs stack y) : Backs stack (x ++ y) :=
  List.forall_mem_append.mpr ⟨hx, hy⟩

/-- In more scopes. -/
theorem Backs.extend {stack : ScopeStack} {found : List FoundVariable} (h : Backs stack found)
    (inner : ScopeStack) : Backs (stack ++ inner) found := by
  intro f hf
  obtain ⟨scope, hmem, hscope⟩ := h f hf
  exact ⟨scope, List.mem_append_left inner hmem, hscope⟩

/-- A value that a name has is that of one of the scopes. -/
theorem mem_of_resolve? {stack : ScopeStack} {name : String} {v : Json} {scope : Scope}
    (h : stack.resolve? name = some (v, scope)) :
    scope ∈ stack ∧ scope.vars.get? name = some v := by
  unfold resolve? at h
  obtain ⟨s, hmem, hs⟩ := List.exists_of_findSome?_eq_some h
  obtain ⟨v', hv, heq⟩ := Option.map_eq_some_iff.mp hs
  cases heq
  exact ⟨List.mem_reverse.mp hmem, hv⟩

end ScopeStack

/-- What a look-up finds is in a scope of the stack. -/
theorem lookUp_backed (stack : ScopeStack) (location name : String) :
    stack.Backs (lookUp stack location name).found := by
  intro f hf
  unfold lookUp at hf
  split at hf
  · next v scope hr =>
    cases List.mem_singleton.mp hf
    obtain ⟨hmem, hv⟩ := ScopeStack.mem_of_resolve? hr
    exact ⟨scope, hmem, rfl, hv⟩
  · cases hf

theorem Replacement.Makes.backed {α : Type} {stack : ScopeStack} {ls : List LookUp}
    {r : Replacement α} (h : r.Makes stack ls) : stack.Backs r.found := by
  intro f hf
  rw [h.found] at hf
  obtain ⟨l, -, hl⟩ := List.mem_flatMap.mp hf
  exact lookUp_backed stack l.location l.name f hl

/-- All that a stage puts in place was found in the scopes that it reports. -/
theorem Stage.payload_backed (s : Stage) (request : Request) (outer : ScopeStack) :
    (s.payload request outer).stack.Backs (s.payload request outer).found := by
  unfold Stage.payload
  refine .append (.append ?_ ?_) (substituteTemplate_makes _ request.template).backed
  · exact ((substituteScope_makes outer _ s.vars).backed.extend _).extend _
  · exact (substituteScope_makes _ _ request.vars).backed.extend _

/-! ## §4. Stacks in which names have the same values. -/

namespace ScopeStack

/-- The name has the same value in both stacks, from scopes of the same name, or none. -/
def SameAt (stack other : ScopeStack) (name : String) : Prop :=
  (stack.resolve? name).map (fun p => (p.1, p.2.id))
    = (ScopeStack.resolve? other name).map fun p => (p.1, p.2.id)

/-- Both stacks give the same for all of the look-ups. -/
def SameFor (stack other : ScopeStack) (ls : List LookUp) : Prop :=
  ∀ l ∈ ls, stack.SameAt other l.name

variable {stack other : ScopeStack} {ls ls' : List LookUp}

/-- Two stacks that agree on look-ups agree on the first of them and on the rest. -/
theorem sameFor_append : stack.SameFor other (ls ++ ls') ↔
    stack.SameFor other ls ∧ stack.SameFor other ls' :=
  List.forall_mem_append

end ScopeStack

section Congruence

variable {stack other : ScopeStack}

/-- A name with the same value, from scopes of the same name, is looked up alike. -/
theorem lookUp_congr {name : String} (location : String) (h : stack.SameAt other name) :
    lookUp stack location name = lookUp other location name := by
  unfold ScopeStack.SameAt at h
  unfold lookUp
  -- both stacks have a value for the name, or neither has
  cases hs : stack.resolve? name with
  | none =>
    cases ho : ScopeStack.resolve? other name with
    | none => rfl
    | some found =>
      rw [hs, ho] at h
      cases h
  | some found =>
    cases ho : ScopeStack.resolve? other name with
    | none =>
      rw [hs, ho] at h
      cases h
    | some found' =>
      rw [hs, ho] at h
      obtain ⟨hv, hid⟩ := (Prod.mk.injEq ..).mp (Option.some.inj h)
      simp only [hv, hid]

theorem substitutePieces_congr (location : String) (ps : List Piece)
    (h : ∀ name ∈ ps.filterMap fun p => p.reference?.map (·.name), stack.SameAt other name) :
    substitutePieces stack location ps = substitutePieces other location ps := by
  induction ps with
  | nil => rfl
  | cons p rest ih =>
    cases p with
    | char ch => rw [substitutePieces, substitutePieces, ih h]
    | reference r =>
      have hr := h r.name List.mem_cons_self
      have hrest := ih fun name hname => h name (List.mem_cons_of_mem r.name hname)
      rw [substitutePieces, substitutePieces, lookUp_congr location hr, hrest]

theorem substituteString_congr {location s : String}
    (h : stack.SameFor other (textLookUps location s)) :
    substituteString stack location s = substituteString other location s := by
  have hnames : ∀ name ∈ variableNames s, stack.SameAt other name :=
    fun name hname => h ⟨name, location⟩ (List.mem_map.mpr ⟨name, hname, rfl⟩)
  unfold substituteString
  cases hw : wholeReference? s with
  | some name =>
    rw [variableNames_of_whole hw] at hnames
    dsimp only
    rw [lookUp_congr location (hnames name List.mem_cons_self)]
  | none =>
    dsimp only [substituteText]
    rw [substitutePieces_congr location _ hnames]

mutual

/-- **A SUBSTITUTION DEPENDS ON ITS LOOK-UPS ONLY.** -/
theorem substitute_congr {location : String} {j : Json}
    (h : stack.SameFor other (j.lookUps location)) :
    substitute stack location j = substitute other location j := by
  cases j with
  | string s => exact substituteString_congr h
  | array items => rw [substitute, substitute, substituteItems_congr h]
  | object members => rw [substitute, substitute, substituteMembers_congr h]
  | null => rfl
  | bool b => rfl
  | number n => rfl

theorem substituteItems_congr {location : String} {i : Nat} {items : List Json}
    (h : stack.SameFor other (itemLookUps location i items)) :
    substituteItems stack location i items = substituteItems other location i items := by
  cases items with
  | nil => rfl
  | cons item rest =>
    obtain ⟨hitem, hrest⟩ := ScopeStack.sameFor_append.mp h
    rw [substituteItems, substituteItems, substitute_congr hitem, substituteItems_congr hrest]

theorem substituteMembers_congr {location : String} {members : List (String × Json)}
    (h : stack.SameFor other (memberLookUps location members)) :
    substituteMembers stack location members = substituteMembers other location members := by
  cases members with
  | nil => rfl
  | cons head rest =>
    obtain ⟨hvalue, hrest⟩ := ScopeStack.sameFor_append.mp h
    rw [substituteMembers, substituteMembers, substitute_congr hvalue,
      substituteMembers_congr hrest]

end

theorem substituteMap_congr {location : String} {m : NameMap Json}
    (h : stack.SameFor other (memberLookUps location m.entries)) :
    substituteMap stack location m = substituteMap other location m := by
  unfold substituteMap
  simp only [substituteMembers_congr h]

theorem substituteOptional_congr {location : String} {s : Option String}
    (h : stack.SameFor other (optionalLookUps location s)) :
    substituteOptional stack location s = substituteOptional other location s := by
  cases s with
  | none => rfl
  | some s =>
    unfold optionalLookUps at h
    rw [Option.toList_some, List.flatMap_singleton] at h
    rw [substituteOptional, substituteOptional, substituteString_congr h]

theorem substituteBody_congr {b : Option Body}
    (h : stack.SameFor other (b.toList.flatMap (·.value.lookUps "/body"))) :
    substituteBody stack b = substituteBody other b := by
  cases b with
  | none => rfl
  | some b =>
    rw [Option.toList_some, List.flatMap_singleton] at h
    rw [substituteBody, substituteBody, substitute_congr h]

theorem substituteTemplate_congr {t : Template} (h : stack.SameFor other t.lookUps) :
    substituteTemplate t stack = substituteTemplate t other := by
  unfold Template.lookUps at h
  simp only [ScopeStack.sameFor_append] at h
  obtain ⟨⟨⟨⟨⟨⟨hurl, hmethod⟩, hquery⟩, hheader⟩, hpath⟩, hcookie⟩, hbody⟩ := h
  unfold substituteTemplate
  rw [substituteOptional_congr hurl, substituteOptional_congr hmethod,
    substituteMap_congr hquery, substituteMap_congr hheader, substituteMap_congr hpath,
    substituteMap_congr hcookie, substituteBody_congr hbody]

theorem substituteCredential_congr {template : String}
    (h : stack.SameFor other (textLookUps "/credential" template)) :
    substituteCredential template stack = substituteCredential template other := by
  unfold substituteCredential
  rw [substituteString_congr h]

/-- With the same look-ups, the values of a scope are filled alike. -/
theorem substituteScope_congr {id : String} {vars : NameMap Json}
    (h : stack.SameFor other (scopeLookUps id vars)) :
    substituteScope id vars stack = substituteScope id vars other := by
  unfold substituteScope
  rw [substituteMap_congr h]

end Congruence

end ApiPlaybook
