/-
  ApiPlaybook.Proofs.OpenApi.Chains
  ─────────────────────────────────
  **CHAINS OF REFERENCES.**

  Following references is deterministic: from a value there is one way to go on,
  if there is one at all.  So a chain that ends meets no reference twice, or it
  would never end (`Passes.nodup`).  That is why striking out the references that
  were followed does no harm:

      following references gives a value exactly if some chain ends there
      (`deref_eq_ok`).
-/
import Mathlib.Data.List.Nodup
import ApiPlaybook.OpenApi.Reference

namespace ApiPlaybook

/-! ## §1. References within values. -/

namespace Json

/-- The value has members. -/
def IsObject (j : Json) : Prop := ∃ members, j = .object members

/-- A value that is a reference has it among its references. -/
theorem mem_refs_of_ref? {j : Json} {ref : String} (h : j.ref? = some ref) : ref ∈ j.refs := by
  cases j with
  | object members =>
    have h : (findEntry "$ref" members).bind asString? = some ref := h
    unfold refs
    rw [h]
    exact List.mem_cons_self
  | _ => cases h

/-- The references of an item are references of the array. -/
theorem refs_subset_items {items : List Json} {j : Json} (h : j ∈ items) :
    j.refs ⊆ refsInItems items := by
  induction items with
  | nil => cases h
  | cons item rest ih =>
    unfold refsInItems
    rcases List.mem_cons.mp h with rfl | h
    · exact List.subset_append_left _ _
    · exact List.subset_append_of_subset_right _ (ih h)

/-- Those of a member are references of the object. -/
theorem refs_subset_members {members : List (String × Json)} {name : String} {j : Json}
    (h : (name, j) ∈ members) : j.refs ⊆ refsInMembers members := by
  induction members with
  | nil => cases h
  | cons head rest ih =>
    unfold refsInMembers
    rcases List.mem_cons.mp h with rfl | h
    · exact List.subset_append_left _ _
    · exact List.subset_append_of_subset_right _ (ih h)

theorem refs_subset_of_asObject? {j : Json} {members : List (String × Json)}
    (h : j.asObject? = some members) : ∀ e ∈ members, e.2.refs ⊆ j.refs := by
  cases j with
  | object =>
    cases h
    intro e he
    rw [refs]
    exact List.subset_append_of_subset_right _ (refs_subset_members he)
  | _ => cases h

/-- One step down, no reference is new. -/
theorem refs_subset_of_step? {j k : Json} {step : String} (h : j.step? step = some k) :
    k.refs ⊆ j.refs := by
  cases j with
  | array items =>
    obtain ⟨i, -, hi⟩ := Option.bind_eq_some_iff.mp h
    have hk := refs_subset_items (List.mem_of_getElem? hi)
    rwa [← refs] at hk
  | object members =>
    have hk := List.subset_append_of_subset_right
      ((findEntry "$ref" members).bind asString?).toList (refs_subset_members (mem_of_findEntry h))
    rwa [← refs] at hk
  | _ => cases h

/-- Going to a member is a step. -/
theorem step?_of_member? {j k : Json} {name : String} (h : j.member? name = some k) :
    j.step? name = some k := by
  cases j with
  | object members => exact h
  | _ => cases h

theorem refs_subset_of_member? {j k : Json} {name : String} (h : j.member? name = some k) :
    k.refs ⊆ j.refs :=
  refs_subset_of_step? (step?_of_member? h)

theorem refs_subset_of_follow? {j k : Json} {steps : List String} (h : j.follow? steps = some k) :
    k.refs ⊆ j.refs := by
  induction steps generalizing j with
  | nil =>
    cases h
    exact List.Subset.refl _
  | cons step rest ih =>
    obtain ⟨next, hn, h⟩ := Option.bind_eq_some_iff.mp h
    exact List.Subset.trans (ih h) (refs_subset_of_step? hn)

end Json

/-! ## §2. Targets. -/

namespace ApiDocument

variable {d : ApiDocument} {j k l : Json} {ref : String} {refs refs' unfollowed : List String}

/-- The steps that a reference into its own document takes. -/
def refSteps? (ref : String) : Option (List String) :=
  match ref.toList with
  | '#' :: rest => Pointer.steps? (rest.dropWhile (· == '#'))
  | _ => none

/-- A reference has a target when it is a pointer that leads somewhere. -/
theorem target_eq_ok : d.target ref = .ok k ↔
    ∃ steps, refSteps? ref = some steps ∧ d.content.follow? steps = some k := by
  unfold target refSteps?
  generalize ref.toList = text
  split
  · next rest =>
    unfold Json.pointer?
    rw [String.toList_ofList]
    show _ ↔ ∃ steps, Pointer.steps? (rest.dropWhile (· == '#')) = some steps ∧ _
    generalize Pointer.steps? (rest.dropWhile (· == '#')) = steps
    cases steps with
    | none => simp
    | some steps => cases hf : d.content.follow? steps <;> simp [hf]
  · simp

theorem isLocal_of_target (h : d.target ref = .ok k) : isLocal ref = true := by
  unfold target at h
  unfold isLocal
  split at h
  · next rest hs =>
    rw [hs]
    rfl
  · cases h

/-- The references of a target are references of the document. -/
theorem refs_subset_of_target (h : d.target ref = .ok k) : k.refs ⊆ d.content.refs := by
  obtain ⟨steps, -, hk⟩ := target_eq_ok.mp h
  exact Json.refs_subset_of_follow? hk

/-! ## §3. Chains. -/

/-- From one value to another by following references; these are listed. -/
inductive Passes (d : ApiDocument) : Json → List String → Json → Prop where
  | here (j : Json) : Passes d j [] j
  | next {j k l : Json} {ref : String} {refs : List String} (hr : j.ref? = some ref)
      (ht : d.target ref = .ok k) (h : Passes d k refs l) : Passes d j (ref :: refs) l

/-- A chain that has come to its end, a value that is no reference. -/
def Leads (d : ApiDocument) (j : Json) (refs : List String) (k : Json) : Prop :=
  d.Passes j refs k ∧ k.ref? = none

/-- A chain is one reference longer than that of its target. -/
theorem Leads.next (hr : j.ref? = some ref) (ht : d.target ref = .ok k) (h : d.Leads k refs l) :
    d.Leads j (ref :: refs) l :=
  ⟨.next hr ht h.1, h.2⟩

/-- A value that is no reference is the end of its own chain. -/
theorem Leads.here (h : j.ref? = none) : d.Leads j [] j := ⟨.here j, h⟩

/-- A chain may be entered by other references. -/
theorem Leads.enter (hk : d.Passes j refs' k) (h : d.Leads k refs l) :
    d.Leads j (refs' ++ refs) l := by
  induction hk with
  | here => exact h
  | next hr ht _ ih => exact .next hr ht (ih h)

/-- Chains may be put together. -/
theorem Passes.trans (h : d.Passes j refs k) (h' : d.Passes k refs' l) :
    d.Passes j (refs ++ refs') l := by
  induction h with
  | here => exact h'
  | next hr ht _ ih => exact .next hr ht (ih h')

/-- A value from which no reference can be followed. -/
def IsEnd (d : ApiDocument) (k : Json) : Prop :=
  ∀ ref l, k.ref? = some ref → d.target ref ≠ .ok l

/-- Chains end at values that are no references. -/
theorem IsEnd.of_ref?_none (h : k.ref? = none) : d.IsEnd k := by
  intro ref l hr
  rw [h] at hr
  cases hr

/-- A chain that goes through a value goes on from there. -/
theorem Passes.resume (h : d.Passes j refs l) (hend : d.IsEnd l) (hk : d.Passes j refs' k) :
    ∃ rest, refs = refs' ++ rest ∧ d.Passes k rest l := by
  induction hk generalizing refs with
  | here => exact ⟨refs, rfl, h⟩
  | next hr ht _ ih =>
    cases h with
    | here => exact absurd ht (hend _ _ hr)
    | next hr' ht' hp =>
      -- there is one reference to follow, and one value that it points to
      rw [hr] at hr'
      cases hr'
      rw [ht] at ht'
      cases ht'
      obtain ⟨rest, rfl, hrest⟩ := ih hp
      exact ⟨rest, rfl, hrest⟩

/-- There is one chain to an end. -/
theorem Passes.unique (h : d.Passes j refs k) (hk : d.IsEnd k) (h' : d.Passes j refs' l)
    (hl : d.IsEnd l) : refs = refs' ∧ k = l := by
  obtain ⟨rest, rfl, hrest⟩ := h.resume hk h'
  cases hrest with
  | here => exact ⟨List.append_nil _, rfl⟩
  | next hr ht _ => exact absurd ht (hl _ _ hr)

/-- A chain that goes through a value goes on from there. -/
theorem Leads.resume (h : d.Leads j refs l) (hk : d.Passes j refs' k) :
    ∃ rest, refs = refs' ++ rest ∧ d.Leads k rest l := by
  obtain ⟨rest, hrefs, hrest⟩ := h.1.resume (.of_ref?_none h.2) hk
  exact ⟨rest, hrefs, hrest, h.2⟩

/-- There is one chain from a value, and one end of it. -/
theorem Leads.unique (h : d.Leads j refs k) (h' : d.Leads j refs' l) : refs = refs' ∧ k = l :=
  h.1.unique (.of_ref?_none h.2) h'.1 (.of_ref?_none h'.2)

/-- The chain behind one of its references. -/
theorem Passes.behind (h : d.Passes j refs l) (hr : ref ∈ refs) :
    ∃ k before after, refs = before ++ ref :: after ∧ d.target ref = .ok k ∧
      d.Passes k after l := by
  induction h with
  | here => cases hr
  | @next j k l first rest hfirst ht hp ih =>
    rcases List.mem_cons.mp hr with rfl | hr
    · exact ⟨k, [], rest, rfl, ht, hp⟩
    · obtain ⟨k', before, after, rfl, ht', hp'⟩ := ih hr
      exact ⟨k', first :: before, after, rfl, ht', hp'⟩

/-- The reference that comes first does not come again, or the chain would go round. -/
theorem Passes.not_mem (ht : d.target ref = .ok k) (h : d.Passes k refs l) (hend : d.IsEnd l) :
    ref ∉ refs := by
  intro hr
  obtain ⟨k', before, after, hrefs, ht', hp⟩ := h.behind hr
  rw [ht] at ht'
  cases ht'
  have hsame := (h.unique hend hp hend).1
  have hlength := congrArg List.length (hrefs.symm.trans hsame)
  simp only [List.length_append, List.length_cons] at hlength
  omega

/-- On the way to an end no reference is met twice. -/
theorem Passes.nodup (h : d.Passes j refs l) (hend : d.IsEnd l) : refs.Nodup := by
  induction h with
  | here => exact .nil
  | next hr ht hp ih => exact List.nodup_cons.mpr ⟨Passes.not_mem ht hp hend, ih hend⟩

/-- A chain that ends does not come back to where it started. -/
theorem Leads.not_mem (ht : d.target ref = .ok k) (h : d.Leads k refs l) : ref ∉ refs :=
  Passes.not_mem ht h.1 (.of_ref?_none h.2)

/-- Only references of the value and of the document are followed. -/
theorem Passes.refs_subset (h : d.Passes j refs l) : refs ⊆ j.refs ++ d.content.refs := by
  induction h with
  | here => exact List.nil_subset _
  | next hr ht hp ih =>
    have hk := refs_subset_of_target ht
    refine List.cons_subset.mpr ⟨List.mem_append_left _ (Json.mem_refs_of_ref? hr), ?_⟩
    intro ref hmem
    rcases List.mem_append.mp (ih hmem) with hmem | hmem
    · exact List.mem_append_right _ (hk hmem)
    · exact List.mem_append_right _ hmem

/-! ## §4. Following references. -/

/-- Following references gives the end of a chain whose references are all left to be followed. -/
theorem follow_eq_ok :
    d.follow unfollowed j = .ok k ↔ ∃ refs, d.Leads j refs k ∧ refs ⊆ unfollowed := by
  constructor
  · intro h
    fun_induction d.follow unfollowed j with
    | case1 unfollowed j hr =>
      cases h
      exact ⟨[], .here hr, List.nil_subset _⟩
    | case2 => cases h
    | case3 unfollowed j ref hr hlocal hmem next ht ih =>
      obtain ⟨refs, hleads, hsub⟩ := ih h
      refine ⟨ref :: refs, .next hr ht hleads, List.cons_subset.mpr ⟨hmem, ?_⟩⟩
      exact List.Subset.trans hsub (List.filter_subset_self unfollowed)
    | case4 => cases h
    | case5 => cases h
  · rintro ⟨refs, ⟨hp, hl⟩, hsub⟩
    -- along the chain; what it has followed is struck out, and does not come again
    induction hp generalizing unfollowed with
    | here j =>
      unfold follow
      simp only [hl]
    | @next j k l ref refs hr ht hp ih =>
      obtain ⟨hmem, hrest⟩ := List.cons_subset.mp hsub
      have hnot : ref ∉ refs := Leads.not_mem ht ⟨hp, hl⟩
      have hothers : refs ⊆ otherRefs ref unfollowed := by
        intro r hr
        refine List.mem_filter.mpr ⟨hrest hr, ?_⟩
        simpa using fun heq : r = ref => hnot (heq ▸ hr)
      unfold follow
      simp only [hr, isLocal_of_target ht, Bool.not_true, Bool.false_eq_true, if_false, hmem,
        dif_pos, ht]
      exact ih hothers hl

/-- **FOLLOWING REFERENCES GIVES THE END OF THE CHAIN**, if there is one. -/
theorem deref_eq_ok : d.deref j = .ok k ↔ ∃ refs, d.Leads j refs k := by
  unfold deref
  cases hr : j.ref? with
  | none =>
    constructor
    · intro h
      cases h
      exact ⟨[], .here hr⟩
    · rintro ⟨refs, h⟩
      rw [(h.unique (.here hr)).2]
      rfl
  | some ref =>
    show d.follow (j.refs ++ d.content.refs) j = .ok k ↔ _
    rw [follow_eq_ok]
    exact ⟨fun ⟨refs, h, _⟩ => ⟨refs, h⟩, fun ⟨refs, h⟩ => ⟨refs, h, h.1.refs_subset⟩⟩

end ApiDocument

end ApiPlaybook
