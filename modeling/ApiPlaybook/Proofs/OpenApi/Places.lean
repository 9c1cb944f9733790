/-
  ApiPlaybook.Proofs.OpenApi.Places
  ─────────────────────────────────
  **ONE VALUE IN THE PLACE OF ANOTHER.**

  A place in a value is a list of slots, names of members and indices of items.
  When an object at a place is replaced by another object, whatever is read one
  slot further is either what it was or has the replacement one slot nearer:

      after a step, the rest of the place (`Json.Replaced.step?`).

  So no text, no truth value and no list changes, and a pointer leads to the same
  value as before or to one around the place, as long as it does not point into
  the object that was taken away (`Json.Replaced.follow?`).
-/
import ApiPlaybook.Proofs.OpenApi.Standing

namespace ApiPlaybook

/-! ## §1. Places. -/

/-- A member or an item of a value. -/
inductive Slot where
  | member (name : String)
  | item (i : Nat)
deriving DecidableEq

/-- The step of a pointer goes through the slot. -/
def Slot.Hit : Slot → String → Prop
  | .member name, step => step = name
  | .item i, step => Pointer.index? step = some i

instance (slot : Slot) (step : String) : Decidable (slot.Hit step) := by
  cases slot <;> exact inferInstanceAs (Decidable (_ = _))

/-- The steps lead to the place and from there on. -/
def GoesInside : List Slot → List String → Prop
  | [], steps => steps ≠ []
  | _ :: _, [] => False
  | slot :: rest, step :: steps => slot.Hit step ∧ GoesInside rest steps

/-- Replace what is found first under a name. -/
def modifyEntry (name : String) (f : Json → Json) :
    List (String × Json) → List (String × Json)
  | [] => []
  | (n, v) :: rest => if name = n then (n, f v) :: rest else (n, v) :: modifyEntry name f rest

/-- Changing the entry of a name changes what is found under that name only. -/
theorem findEntry_modifyEntry {name other : String} {f : Json → Json}
    {members : List (String × Json)} :
    findEntry other (modifyEntry name f members)
      = if other = name then (findEntry name members).map f else findEntry other members := by
  induction members with
  | nil => simp [modifyEntry, findEntry]
  | cons head rest ih =>
    obtain ⟨n, v⟩ := head
    unfold modifyEntry
    by_cases hn : name = n
    · subst hn
      by_cases ho : other = name <;> simp [findEntry, ho]
    · rw [if_neg hn, findEntry, ih]
      by_cases ho : other = n
      · subst ho
        simp [findEntry, Ne.symm hn]
      · simp [findEntry, ho, hn]

/-- Where no name comes twice, what stands under the name has been replaced. -/
theorem eq_of_mem_modifyEntry {name : String} {f : Json → Json} {w : Json}
    {members : List (String × Json)} (hnames : InNameOrder members)
    (h : (name, w) ∈ modifyEntry name f members) : ∃ v, w = f v := by
  induction members with
  | nil => cases h
  | cons head rest ih =>
    obtain ⟨n, v⟩ := head
    obtain ⟨hfirst, hrest⟩ := List.pairwise_cons.mp hnames
    unfold modifyEntry at h
    split at h
    · next hn =>
      rcases List.mem_cons.mp h with heq | hmem
      · exact ⟨v, congrArg Prod.snd heq⟩
      · exact absurd (hfirst _ hmem) (hn ▸ String.lt_irrefl name)
    · next hn =>
      rcases List.mem_cons.mp h with heq | hmem
      · exact absurd (congrArg Prod.fst heq) hn
      · exact ih hrest hmem

namespace Json

/-- What stands in a slot. -/
def part? : Json → Slot → Option Json
  | .object members, .member name => findEntry name members
  | .array items, .item i => items[i]?
  | _, _ => none

/-- What stands at a place. -/
def at? : Json → List Slot → Option Json
  | j, [] => some j
  | j, slot :: rest => (j.part? slot).bind fun k => k.at? rest

/-- The value with another one at a place. -/
def replaceAt : Json → List Slot → Json → Json
  | _, [], new => new
  | .object members, .member name :: rest, new =>
    .object (modifyEntry name (fun v => v.replaceAt rest new) members)
  | .array items, .item i :: rest, new => .array (items.modify i fun v => v.replaceAt rest new)
  | j, _ :: _, _ => j

/-- Replacing below a member replaces in that member. -/
theorem member?_replaceAt {j k : Json} {name : String} (h : j.member? name = some k)
    (rest : List Slot) (new : Json) :
    (j.replaceAt (.member name :: rest) new).member? name = some (k.replaceAt rest new) := by
  cases j with
  | object members =>
    show findEntry name (modifyEntry name _ members) = _
    rw [findEntry_modifyEntry, if_pos rfl, show findEntry name members = some k from h]
    rfl
  | _ => cases h

/-! ## §2. A value with another one at a place. -/

/-- The second value is the first one, or the first one with `new` at the place where
`old` stood. -/
def Replaced (old new : Json) (place : List Slot) (v v' : Json) : Prop :=
  v' = v ∨ v.at? place = some old ∧ v' = v.replaceAt place new

namespace Replaced

variable {old new v v' u : Json} {slot : Slot} {rest place : List Slot} {name step : String}

/-- What is not around the place is as it was. -/
theorem refl (v : Json) : Replaced old new place v v := .inl rfl

theorem rel_refl (o : Option Json) : Option.Rel (Replaced old new place) o o := by
  cases o with
  | none => exact .none
  | some v => exact .some (.refl v)

/-- Only one member of an object changes, or one item of an array. -/
theorem cases_cons (h : Replaced old new (slot :: rest) v v') :
    v' = v ∨
    (∃ members name u, v = .object members ∧ slot = .member name ∧
      findEntry name members = some u ∧ u.at? rest = some old ∧
      v' = .object (modifyEntry name (fun w => w.replaceAt rest new) members)) ∨
    ∃ items i u, v = .array items ∧ slot = .item i ∧ items[i]? = some u ∧
      u.at? rest = some old ∧ v' = .array (items.modify i fun w => w.replaceAt rest new) := by
  obtain rfl | ⟨hat, rfl⟩ := h
  · exact .inl rfl
  · obtain ⟨u, hu, hat'⟩ := Option.bind_eq_some_iff.mp hat
    unfold part? at hu
    split at hu
    · exact .inr (.inl ⟨_, _, u, rfl, rfl, hu, hat', rfl⟩)
    · exact .inr (.inr ⟨_, _, u, rfl, rfl, hu, hat', rfl⟩)
    · cases hu

/-- A slot that the step does not go through is not seen. -/
theorem step?_eq (h : Replaced old new (slot :: rest) v v') (hs : ¬ slot.Hit step) :
    v'.step? step = v.step? step := by
  obtain rfl | ⟨members, name, u, rfl, rfl, -, -, rfl⟩ | ⟨items, i, u, rfl, rfl, -, -, rfl⟩ :=
    h.cases_cons
  · rfl
  · have hs : step ≠ name := hs
    show findEntry step (modifyEntry name _ members) = findEntry step members
    rw [findEntry_modifyEntry, if_neg hs]
  · show ((Pointer.index? step).bind fun j => (items.modify i _)[j]?)
      = (Pointer.index? step).bind fun j => items[j]?
    cases hj : Pointer.index? step with
    | none => rfl
    | some j =>
      have hij : i ≠ j := fun heq => hs (heq ▸ hj)
      simp [List.getElem?_modify, hij]

/-- After a step the replacement is one slot nearer. -/
theorem step? (h : Replaced old new (slot :: rest) v v') (step : String) :
    Option.Rel (Replaced old new rest) (v.step? step) (v'.step? step) := by
  by_cases hs : slot.Hit step
  · obtain rfl | ⟨members, name, u, rfl, rfl, hu, hat, rfl⟩ |
      ⟨items, i, u, rfl, rfl, hu, hat, rfl⟩ := h.cases_cons
    · exact rel_refl _
    · obtain rfl : step = name := hs
      show Option.Rel _ (findEntry step members) (findEntry step (modifyEntry step _ members))
      rw [findEntry_modifyEntry, if_pos rfl, hu]
      exact .some (.inr ⟨hat, rfl⟩)
    · have hs : Pointer.index? step = some i := hs
      show Option.Rel _ ((Pointer.index? step).bind fun j => items[j]?)
        ((Pointer.index? step).bind fun j => (items.modify i _)[j]?)
      rw [hs, Option.bind_some, Option.bind_some, List.getElem?_modify_eq, hu]
      exact .some (.inr ⟨hat, rfl⟩)
  · rw [h.step?_eq hs]
    exact rel_refl _

/-- A pointer that does not lead inside leads to the same value, or to one around the place. -/
theorem follow? {steps : List String} (h : Replaced old new place v v')
    (hs : ¬ GoesInside place steps) :
    Option.Rel (fun w w' => ∃ rest, Replaced old new rest w w') (v.follow? steps)
      (v'.follow? steps) := by
  -- pointer and place go through the same slots until the pointer ends or turns off
  induction steps generalizing v v' place with
  | nil => exact .some ⟨place, h⟩
  | cons step steps ih =>
    cases place with
    | nil => exact absurd (List.cons_ne_nil _ _) hs
    | cons slot rest =>
      unfold Json.follow?
      by_cases hslot : slot.Hit step
      · have hstep := h.step? step
        generalize v.step? step = o at hstep ⊢
        generalize v'.step? step = o' at hstep ⊢
        cases hstep with
        | none => exact .none
        | some hw => exact ih hw fun hinside => hs ⟨hslot, hinside⟩
      · rw [h.step?_eq hslot]
        cases v.step? step with
        | none => exact .none
        | some w =>
          show Option.Rel _ (w.follow? steps) (w.follow? steps)
          cases w.follow? steps with
          | none => exact .none
          | some u => exact .some ⟨[], .refl u⟩

/-! ## §3. Members and items. -/

/-- Off the place, a member is the same. -/
theorem member?_eq (h : Replaced old new (slot :: rest) v v') (hs : slot ≠ .member name) :
    v'.member? name = v.member? name := by
  obtain rfl | ⟨members, n, u, rfl, rfl, -, -, rfl⟩ | ⟨items, i, u, rfl, rfl, -, -, rfl⟩ :=
    h.cases_cons
  · rfl
  · have hn : name ≠ n := fun heq => hs (congrArg Slot.member heq.symm)
    show findEntry name (modifyEntry n _ members) = findEntry name members
    rw [findEntry_modifyEntry, if_neg hn]
  · rfl

/-- A member is the same, or has the replacement one slot nearer. -/
theorem member? (h : Replaced old new (slot :: rest) v v') (name : String) :
    Option.Rel (Replaced old new rest) (v.member? name) (v'.member? name) := by
  cases v with
  | object members =>
    have hstep := h.step? name
    obtain rfl | ⟨members, n, u, hv, rfl, -, -, rfl⟩ | ⟨items, i, u, hv, -⟩ := h.cases_cons
    · exact rel_refl _
    · cases hv
      exact hstep
    · cases hv
  | _ =>
    obtain rfl | ⟨members, n, u, hv, -⟩ | ⟨items, i, u, hv, -, -, -, rfl⟩ := h.cases_cons
    · exact .none
    · cases hv
    · exact .none

theorem bind_member? {o o' : Option Json} (h : Option.Rel (Replaced old new (slot :: rest)) o o')
    (name : String) :
    Option.Rel (Replaced old new rest) (o.bind (·.member? name)) (o'.bind (·.member? name)) := by
  cases h with
  | none => exact .none
  | some hv => exact hv.member? name

/-- The items, one by one. -/
theorem asArray? (h : Replaced old new (slot :: rest) v v') :
    Option.Rel (List.Forall₂ (Replaced old new rest)) v.asArray? v'.asArray? := by
  obtain rfl | ⟨members, n, u, rfl, rfl, -, -, rfl⟩ | ⟨items, i, u, rfl, rfl, hu, hat, rfl⟩ :=
    h.cases_cons
  · cases v'.asArray? with
    | none => exact .none
    | some items => exact .some (List.forall₂_same.mpr fun w _ => .refl w)
  · exact .none
  · refine .some (List.forall₂_of_length_eq_of_get (List.length_modify ..).symm ?_)
    intro j hj hj'
    by_cases hij : i = j
    · subst hij
      obtain ⟨hlt, rfl⟩ := List.getElem?_eq_some_iff.mp hu
      exact .inr ⟨hat, by simp⟩
    · exact .inl (by simp [hij])

/-- Of the entries of an object one has the replacement, and the names are the same. -/
theorem rel_modifyEntry {members : List (String × Json)} (hu : findEntry name members = some u)
    (hat : u.at? rest = some old) :
    List.Forall₂ (fun e e' => e.1 = e'.1 ∧ Replaced old new rest e.2 e'.2) members
      (modifyEntry name (fun w => w.replaceAt rest new) members) := by
  induction members with
  | nil => exact .nil
  | cons head tail ih =>
    unfold findEntry at hu
    unfold modifyEntry
    split at hu
    · next hn =>
      cases hu
      rw [if_pos hn]
      exact .cons ⟨rfl, .inr ⟨hat, rfl⟩⟩ (List.forall₂_same.mpr fun e _ => ⟨rfl, .refl e.2⟩)
    · next hn =>
      rw [if_neg hn]
      exact .cons ⟨rfl, .refl _⟩ (ih hu)

/-- The members, one by one. -/
theorem asObject? (h : Replaced old new (slot :: rest) v v') :
    Option.Rel (List.Forall₂ fun e e' => e.1 = e'.1 ∧ Replaced old new rest e.2 e'.2)
      v.asObject? v'.asObject? := by
  obtain rfl | ⟨members, n, u, rfl, rfl, hu, hat, rfl⟩ | ⟨items, i, u, rfl, rfl, -, -, rfl⟩ :=
    h.cases_cons
  · cases v'.asObject? with
    | none => exact .none
    | some members => exact .some (List.forall₂_same.mpr fun e _ => ⟨rfl, .refl e.2⟩)
  · exact .some (rel_modifyEntry hu hat)
  · exact .none

/-! ## §4. Texts, truth values and lists. -/

/-- What objects and arrays do not show is the same. -/
theorem atom_eq {α : Type} {f : Json → Option α} (hobject : ∀ members, f (.object members) = none)
    (harray : ∀ items, f (.array items) = none) (ho : old.IsObject) (hn : new.IsObject)
    (h : Replaced old new place v v') : f v = f v' := by
  cases place with
  | nil =>
    obtain rfl | ⟨hat, rfl⟩ := h
    · rfl
    · cases hat
      obtain ⟨members, rfl⟩ := ho
      obtain ⟨members', rfl⟩ := hn
      exact (hobject members).trans (hobject members').symm
  | cons slot rest =>
    obtain rfl | ⟨members, n, u, rfl, rfl, -, -, rfl⟩ | ⟨items, i, u, rfl, rfl, -, -, rfl⟩ :=
      h.cases_cons
    · rfl
    · exact (hobject _).trans (hobject _).symm
    · exact (harray _).trans (harray _).symm

/-- What objects and lists do not have, a member has as before. -/
theorem member_atom_eq {α : Type} {f : Json → Option α}
    (hobject : ∀ members, f (.object members) = none) (harray : ∀ items, f (.array items) = none)
    (ho : old.IsObject) (hn : new.IsObject) (h : Replaced old new (slot :: rest) v v')
    (name : String) : (v.member? name).bind f = (v'.member? name).bind f := by
  have hmember := h.member? name
  generalize v.member? name = o at hmember ⊢
  generalize v'.member? name = o' at hmember ⊢
  cases hmember with
  | none => rfl
  | some hw => exact hw.atom_eq hobject harray ho hn

/-- Texts and truth values are the same on both sides. -/
theorem sameAtoms (ho : old.IsObject) (hn : new.IsObject)
    (h : Replaced old new (slot :: rest) v v') : v.SameAtoms v' where
  text := h.member_atom_eq (fun _ => rfl) (fun _ => rfl) ho hn
  flag := h.member_atom_eq (fun _ => rfl) (fun _ => rfl) ho hn

/-- The entries, one by one. -/
theorem parameterEntries {next : Slot} (h : Replaced old new (slot :: next :: rest) v v') :
    List.Forall₂ (Replaced old new rest) (ApiDocument.parameterEntries v)
      (ApiDocument.parameterEntries v') := by
  have hmember := h.member? "parameters"
  unfold ApiDocument.parameterEntries
  generalize v.member? "parameters" = o at hmember ⊢
  generalize v'.member? "parameters" = o' at hmember ⊢
  cases hmember with
  | none => exact .nil
  | @some w w' hw =>
    have hitems := hw.asArray?
    show List.Forall₂ _ (w.asArray?.getD []) (w'.asArray?.getD [])
    generalize w.asArray? = items at hitems ⊢
    generalize w'.asArray? = items' at hitems ⊢
    cases hitems with
    | none => exact .nil
    | some hitems => exact hitems

/-- The first server is the same, unless the place is among the servers. -/
theorem firstServer?_eq (h : Replaced old new (slot :: rest) v v')
    (hs : slot ≠ .member "servers") : ApiDocument.firstServer? v = ApiDocument.firstServer? v' := by
  unfold ApiDocument.firstServer?
  rw [h.member?_eq hs]

end Replaced

end Json

end ApiPlaybook
