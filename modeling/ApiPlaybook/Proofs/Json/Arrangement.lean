/-
  ApiPlaybook.Proofs.Json.Arrangement
  ───────────────────────────────────
  **VALUES WITH THEIR MEMBERS IN ANY ORDER.**

  The order in which an object lists its members says nothing.  Two values that
  differ in that order alone are arrangements of each other, at any depth
  (`Json.Arranges`).  A text may hold any arrangement of a value: read as a free
  value it gives the one whose members are in name order (`Json.value_draft`).
-/
import Mathlib.Data.List.Perm.Basic
import ApiPlaybook.Proofs.Json.Text

namespace ApiPlaybook

universe u

/-! ## §1. Entries put into a map in any order. -/

section Entries

variable {α : Type u} {entries sorted : List (String × α)}

/-- Put entries in turn into others that are in name order. -/
def insertEntries (acc entries : List (String × α)) : List (String × α) :=
  entries.foldl (fun acc e => insertEntry e.1 e.2 acc) acc

@[simp] theorem insertEntries_cons (acc : List (String × α)) (e : String × α)
    (entries : List (String × α)) :
    insertEntries acc (e :: entries) = insertEntries (insertEntry e.1 e.2 acc) entries := rfl

/-- Entries that are put in one by one keep the order of names. -/
theorem InNameOrder.insertEntries {acc : List (String × α)} (h : InNameOrder acc)
    (entries : List (String × α)) : InNameOrder (insertEntries acc entries) := by
  induction entries generalizing acc with
  | nil => exact h
  | cons e rest ih => exact ih h.insertEntry

/-- A new name is one more entry. -/
theorem insertEntry_perm {name : String} (value : α) (h : name ∉ entries.map (·.1)) :
    (insertEntry name value entries).Perm ((name, value) :: entries) := by
  induction entries with
  | nil => exact .refl _
  | cons e rest ih =>
    obtain ⟨n, v⟩ := e
    obtain ⟨hne, hrest⟩ := not_or.mp (fun h' => h (List.mem_cons.mpr h'))
    have hne : ¬ name = n := hne
    unfold insertEntry
    by_cases hlt : name < n
    · rw [if_pos hlt]
    · rw [if_neg hlt, if_neg hne]
      exact ((ih hrest).cons _).trans (.swap _ _ _)

/-- Of different names, all entries are there in the end. -/
theorem insertEntries_perm {acc : List (String × α)}
    (h : ((acc ++ entries).map (·.1)).Nodup) :
    (insertEntries acc entries).Perm (acc ++ entries) := by
  induction entries generalizing acc with
  | nil => rw [List.append_nil]; exact .refl _
  | cons e rest ih =>
    have hperm : (acc ++ e :: rest).Perm (e :: acc ++ rest) := List.perm_middle
    have hnodup : ((e :: acc ++ rest).map (·.1)).Nodup := (hperm.map _).nodup_iff.mp h
    have hnew : e.1 ∉ acc.map (·.1) := by
      rw [List.cons_append, List.map_cons, List.nodup_cons, List.map_append] at hnodup
      exact fun hmem => hnodup.1 (List.mem_append_left _ hmem)
    have hinsert := (insertEntry_perm e.2 hnew).append_right rest
    rw [insertEntries_cons]
    exact ((ih ((hinsert.map _).nodup_iff.mpr hnodup)).trans hinsert).trans hperm.symm

/-- Entries in name order have different names. -/
theorem InNameOrder.nodup (h : InNameOrder sorted) : (sorted.map (·.1)).Nodup := by
  refine List.pairwise_map.mpr (List.Pairwise.imp ?_ h)
  rintro a b hab heq
  rw [heq] at hab
  exact String.lt_irrefl _ hab

/-- In name order there is one list of given entries. -/
theorem InNameOrder.eq_of_perm (h : InNameOrder entries) (h' : InNameOrder sorted)
    (hp : entries.Perm sorted) : entries = sorted :=
  hp.eq_of_pairwise (fun _ _ _ _ hab hba => absurd (String.lt_trans hab hba) (String.lt_irrefl _))
    h h'

/-- **THE ORDER OF ENTRIES DOES NOT MATTER**: put in turn into nothing, they give the list
in name order. -/
theorem insertEntries_of_perm (h : InNameOrder sorted) (hp : entries.Perm sorted) :
    insertEntries [] entries = sorted := by
  have hnodup : ((([] : List (String × α)) ++ entries).map (·.1)).Nodup :=
    (hp.map _).nodup_iff.mpr h.nodup
  have hself := insertEntries_perm hnodup
  rw [List.nil_append] at hself
  exact InNameOrder.eq_of_perm (InNameOrder.insertEntries List.Pairwise.nil entries) h
    (hself.trans hp)

end Entries

/-! ## §2. Arrangements. -/

namespace Json

mutual

/-- The same value, but for the order in which objects list their members. -/
def Arranges : Json → Json → Prop
  | .array items, .array items' => ItemsArrange items items'
  | .object members, .object members' => MembersArrange members members'
  | j, j' => j = j'

def ItemsArrange : List Json → List Json → Prop
  | [], items' => items' = []
  | item :: rest, items' =>
    ∃ item' rest', items' = item' :: rest' ∧ Arranges item item' ∧ ItemsArrange rest rest'

/-- The first member stands anywhere among the others. -/
def MembersArrange : List (String × Json) → List (String × Json) → Prop
  | [], members' => members' = []
  | (name, value) :: rest, members' =>
    ∃ before value' behind, members' = before ++ (name, value') :: behind ∧
      Arranges value value' ∧ MembersArrange rest (before ++ behind)

end

/-- Members of one name, with values of which one arranges the other. -/
def MemberArranges (e e' : String × Json) : Prop := e.1 = e'.1 ∧ e.2.Arranges e'.2

mutual

/-- Every value arranges itself. -/
theorem Arranges.refl (j : Json) : j.Arranges j := by
  match j with
  | .null => exact rfl
  | .bool b => exact rfl
  | .number n => exact rfl
  | .string s => exact rfl
  | .array items => exact ItemsArrange.refl items
  | .object members => exact MembersArrange.refl members

theorem ItemsArrange.refl (items : List Json) : ItemsArrange items items := by
  match items with
  | [] => exact rfl
  | item :: rest => exact ⟨item, rest, rfl, Arranges.refl item, ItemsArrange.refl rest⟩

/-- Members, too, in the order they have. -/
theorem MembersArrange.refl (members : List (String × Json)) :
    MembersArrange members members := by
  match members with
  | [] => exact rfl
  | (name, value) :: rest =>
    exact ⟨[], value, rest, rfl, Arranges.refl value, MembersArrange.refl rest⟩

end

/-- Items are arranged one by one. -/
theorem ItemsArrange.forall₂ {items items' : List Json} (h : ItemsArrange items items') :
    List.Forall₂ Arranges items items' := by
  induction items generalizing items' with
  | nil =>
    cases h
    exact .nil
  | cons item rest ih =>
    obtain ⟨item', rest', rfl, hitem, hrest⟩ := h
    exact .cons hitem (ih hrest)

/-- Members are arranged one by one in some order. -/
theorem MembersArrange.exists_order {members members' : List (String × Json)}
    (h : MembersArrange members members') :
    ∃ order, List.Forall₂ MemberArranges members order ∧ order.Perm members' := by
  induction members generalizing members' with
  | nil =>
    cases h
    exact ⟨[], .nil, .refl _⟩
  | cons e rest ih =>
    obtain ⟨before, value', behind, rfl, hvalue, hrest⟩ := h
    obtain ⟨order, horder, hperm⟩ := ih hrest
    exact ⟨(e.1, value') :: order, .cons ⟨rfl, hvalue⟩ horder,
      (hperm.cons _).trans List.perm_middle.symm⟩

/-- Only arrays and objects can be arranged in another way. -/
theorem Arranges.eq_of_leaf {j j' : Json} (h : j.Arranges j')
    (hitems : ∀ items, j' ≠ .array items) (hmembers : ∀ members, j' ≠ .object members) :
    j = j' := by
  cases j with
  | array items =>
    cases j' with
    | array items' => exact absurd rfl (hitems items')
    | _ => exact h
  | object members =>
    cases j' with
    | object members' => exact absurd rfl (hmembers members')
    | _ => exact h
  | _ => exact h

/-- A text has no other arrangement than itself. -/
theorem Arranges.of_string {j : Json} {s : String} (h : j.Arranges (.string s)) :
    j = .string s :=
  h.eq_of_leaf nofun nofun

/-- An array has its items in their order, each of them arranged. -/
theorem Arranges.of_array {j : Json} {items' : List Json} (h : j.Arranges (.array items')) :
    ∃ items, j = .array items ∧ List.Forall₂ Arranges items items' := by
  cases j with
  | array items => exact ⟨items, rfl, ItemsArrange.forall₂ h⟩
  | _ => cases h

/-- An object has its members in some order, each of them arranged. -/
theorem Arranges.of_object {j : Json} {members' : List (String × Json)}
    (h : j.Arranges (.object members')) :
    ∃ members order, j = .object members ∧ List.Forall₂ MemberArranges members order ∧
      order.Perm members' := by
  cases j with
  | object members =>
    obtain ⟨order, horder, hperm⟩ := MembersArrange.exists_order h
    exact ⟨members, order, rfl, horder, hperm⟩
  | _ => cases h

/-- An object made of members with different names lists these in some order. -/
theorem Arranges.of_ofMembers {j : Json} {entries : List (String × Json)}
    (hn : (entries.map (·.1)).Nodup) (h : j.Arranges (.ofMembers entries)) :
    ∃ members members', j = .object members ∧ members.Perm members' ∧
      List.Forall₂ MemberArranges members' entries := by
  obtain ⟨members, order, rfl, horder, hperm⟩ := Arranges.of_object h
  have hn' : ((([] : List (String × Json)) ++ entries).map (·.1)).Nodup := hn
  have hentries : (insertEntries [] entries).Perm entries := insertEntries_perm hn'
  obtain ⟨members', hm, hm'⟩ : Relation.Comp List.Perm (List.Forall₂ MemberArranges)
      members entries := by
    rw [← List.forall₂_comp_perm_eq_perm_comp_forall₂]
    exact ⟨order, horder, hperm.trans hentries⟩
  exact ⟨members, members', rfl, hm, hm'⟩

/-! ## §3. Free values. -/

/-- All items are in name order inside. -/
theorem allOrdered_iff {items : List Json} :
    AllOrdered items ↔ ∀ item ∈ items, item.IsOrdered := by
  induction items with
  | nil => simp [AllOrdered]
  | cons item rest ih => rw [AllOrdered, List.forall_mem_cons, ih]

/-- All members are in name order inside. -/
theorem allMembersOrdered_iff {members : List (String × Json)} :
    AllMembersOrdered members ↔ ∀ e ∈ members, e.2.IsOrdered := by
  induction members with
  | nil => simp [AllMembersOrdered]
  | cons e rest ih =>
    obtain ⟨name, value⟩ := e
    rw [AllMembersOrdered, List.forall_mem_cons, ih]

theorem AllMembersOrdered.insertEntry {name : String} {value : Json}
    {members : List (String × Json)} (h : AllMembersOrdered members) (hvalue : value.IsOrdered) :
    AllMembersOrdered (ApiPlaybook.insertEntry name value members) := by
  refine allMembersOrdered_iff.mpr fun e he => ?_
  rcases mem_insertEntry he with rfl | he
  · exact hvalue
  · exact allMembersOrdered_iff.mp h e he

/-- Members that are put in one by one make an object in name order. -/
theorem ofMembers_ordered {members : List (String × Json)} (h : ∀ e ∈ members, e.2.IsOrdered) :
    (ofMembers members).IsOrdered := by
  have hfold (acc : List (String × Json)) (hacc : InNameOrder acc)
      (ho : AllMembersOrdered acc) : (object (insertEntries acc members)).IsOrdered := by
    induction members generalizing acc with
    | nil => exact ⟨hacc, ho⟩
    | cons e rest ih =>
      obtain ⟨he, hrest⟩ := List.forall_mem_cons.mp h
      exact ih hrest _ hacc.insertEntry (ho.insertEntry he)
  exact hfold [] List.Pairwise.nil trivial

mutual

/-- **A FREE VALUE IS READ IN NAME ORDER**, however its members are arranged. -/
theorem value_draft (j : Json) {j' : Json} (h : j.Arranges j') (ho : j'.IsOrdered) :
    j.draft.value = .ok j' := by
  match j, j', h, ho with
  | .null, _, rfl, _ => rfl
  | .bool b, _, rfl, _ => rfl
  | .number n, _, rfl, _ => rfl
  | .string s, _, rfl, _ => rfl
  | .array items, .array items', h, ho =>
    have hitems : Draft.valueItems (draftItems items) = .ok items' := valueItems_draft items h ho
    simp only [draft, Draft.value, hitems]
    rfl
  | .object members, .object members', h, ho =>
    obtain ⟨hsorted, hordered⟩ := ho
    obtain ⟨order, hperm, hmembers⟩ :=
      valueMembers_draft members h (allMembersOrdered_iff.mp hordered)
    simp only [draft, Draft.value, hmembers, insertEntries_of_perm hsorted hperm]
    rfl

/-- The drafts of items are read as the items in name order. -/
theorem valueItems_draft (items : List Json) {items' : List Json}
    (h : ItemsArrange items items') (ho : AllOrdered items') :
    Draft.valueItems (draftItems items) = .ok items' := by
  match items with
  | [] =>
    cases h
    rfl
  | item :: rest =>
    obtain ⟨item', rest', rfl, hitem, hrest⟩ := h
    obtain ⟨hfirst, hothers⟩ := ho
    rw [draftItems, Draft.valueItems, value_draft item hitem hfirst,
      valueItems_draft rest hrest hothers]
    rfl

/-- The drafts of members are put in, in the order of the text. -/
theorem valueMembers_draft (members : List (String × Json)) {members' : List (String × Json)}
    (h : MembersArrange members members') (ho : ∀ e ∈ members', e.2.IsOrdered) :
    ∃ order, order.Perm members' ∧ ∀ acc,
      Draft.valueMembers acc (draftMembers members) = .ok (insertEntries acc order) := by
  match members with
  | [] =>
    cases h
    exact ⟨[], .refl _, fun acc => rfl⟩
  | (name, value) :: rest =>
    obtain ⟨before, value', behind, rfl, hvalue, hrest⟩ := h
    have hperm : (before ++ (name, value') :: behind).Perm ((name, value') :: (before ++ behind)) :=
      List.perm_middle
    obtain ⟨hfirst, hothers⟩ :=
      List.forall_mem_cons.mp fun e he => ho e (hperm.mem_iff.mpr he)
    obtain ⟨order, horder, hvalues⟩ := valueMembers_draft rest hrest hothers
    refine ⟨(name, value') :: order, (horder.cons _).trans hperm.symm, fun acc => ?_⟩
    rw [draftMembers, Draft.valueMembers, value_draft value hvalue hfirst]
    exact hvalues (insertEntry name value' acc)

end

end Json

end ApiPlaybook
