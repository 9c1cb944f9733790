/-
  ApiPlaybook.Proofs.OpenApi.Additions
  ────────────────────────────────────
  **WHAT IS ADDED TO A DOCUMENT IS NOT SEEN.**

  A document may get more members anywhere, with objects under them that no
  look-up reads as a text, a truth value or a list (`Json.Grows`).  What was found
  is found again.  Only three things could be found in addition: what a reference
  of the document had pointed to in vain, an operation, and a scheme of a name
  that had none.  Where no operation is added and no reference comes to a new end
  (`Adds`),

      the same operations are found, and the same scheme for every name that has
      no new one (`Adds.operation?_eq`, `Adds.securityScheme?_eq`).
-/
import ApiPlaybook.Proofs.OpenApi.Standing

namespace ApiPlaybook

/-! ## §1. Values that grow. -/

/-- The same members in the same order, with values that are related, and among them
others that hold objects. -/
inductive MembersGrow (R : Json → Json → Prop) :
    List (String × Json) → List (String × Json) → Prop where
  | nil : MembersGrow R [] []
  | keep {name : String} {v v' : Json} {members members' : List (String × Json)} (hv : R v v')
      (h : MembersGrow R members members') :
      MembersGrow R ((name, v) :: members) ((name, v') :: members')
  | add {name : String} {v' : Json} {members members' : List (String × Json)}
      (hv : v'.IsObject) (hn : findEntry name members = none) (h : MembersGrow R members members') :
      MembersGrow R members ((name, v') :: members')

/-- Members grow to themselves, if their values do. -/
theorem MembersGrow.refl {R : Json → Json → Prop} (hR : ∀ v, R v v)
    (members : List (String × Json)) : MembersGrow R members members := by
  induction members with
  | nil => exact .nil
  | cons head rest ih => exact .keep (hR _) ih

/-- Objects anywhere in the value may get more members, with objects under them. -/
inductive Json.Grows : Json → Json → Prop where
  | same (j : Json) : Grows j j
  | array {items items' : List Json} (h : List.Forall₂ Grows items items') :
      Grows (.array items) (.array items')
  | object {members members' : List (String × Json)} (h : MembersGrow Grows members members') :
      Grows (.object members) (.object members')

/-- What is found under a name in a value and in what it grows to. -/
inductive FoundGrown : Option Json → Option Json → Prop where
  | both {v v' : Json} (h : v.Grows v') : FoundGrown (some v) (some v')
  | neither : FoundGrown none none
  | added {v' : Json} (h : v'.IsObject) : FoundGrown none (some v')

namespace FoundGrown

variable {o o' : Option Json}

theorem refl (o : Option Json) : FoundGrown o o := by
  cases o with
  | none => exact .neither
  | some v => exact .both (.same v)

/-- A text is found alike before and after. -/
theorem text (h : FoundGrown o o') : o.bind Json.asString? = o'.bind Json.asString? := by
  cases h with
  | both h => cases h <;> rfl
  | neither => rfl
  | added h =>
    obtain ⟨members, rfl⟩ := h
    rfl

theorem flag (h : FoundGrown o o') : o.bind Json.asBool? = o'.bind Json.asBool? := by
  cases h with
  | both h => cases h <;> rfl
  | neither => rfl
  | added h =>
    obtain ⟨members, rfl⟩ := h
    rfl

theorem items (h : FoundGrown o o') :
    Option.Rel (List.Forall₂ Json.Grows) (o.bind Json.asArray?) (o'.bind Json.asArray?) := by
  cases h with
  | both h =>
    cases h with
    | same =>
      rename_i v
      show Option.Rel _ v.asArray? v.asArray?
      cases v.asArray? with
      | none => exact .none
      | some items => exact .some (List.forall₂_same.mpr fun v _ => .same v)
    | array h => exact .some h
    | object h => exact .none
  | neither => exact .none
  | added h =>
    obtain ⟨members, rfl⟩ := h
    exact .none

end FoundGrown

namespace Json.Grows

variable {v v' w : Json}

/-- A member of an object that has grown is there as before, or new. -/
theorem findEntry {members members' : List (String × Json)} (h : MembersGrow Grows members members')
    (name : String) : FoundGrown (findEntry name members) (findEntry name members') := by
  induction h with
  | nil => exact .neither
  | @keep n v v' members members' hv h ih =>
    unfold ApiPlaybook.findEntry
    split
    · exact .both hv
    · exact ih
  | @add n v' members members' hv hn h ih =>
    rw [ApiPlaybook.findEntry]
    split
    · next heq =>
      rw [heq, hn]
      exact .added hv
    · exact ih

theorem member? (h : v.Grows v') (name : String) :
    FoundGrown (v.member? name) (v'.member? name) := by
  cases h with
  | same j => exact .refl _
  | array h => exact .neither
  | object h => exact findEntry h name

/-- A value that has grown shows the same texts and truth values. -/
theorem sameAtoms (h : v.Grows v') : v.SameAtoms v' :=
  ⟨fun name => (h.member? name).text, fun name => (h.member? name).flag⟩

/-- What a step led to it still leads to. -/
theorem step? (h : v.Grows v') {step : String} (hw : v.step? step = some w) :
    ∃ w', v'.step? step = some w' ∧ w.Grows w' := by
  cases h with
  | same j => exact ⟨w, hw, .same w⟩
  | @array items items' h =>
    obtain ⟨i, hi, hw⟩ := Option.bind_eq_some_iff.mp hw
    obtain ⟨hlt, rfl⟩ := List.getElem?_eq_some_iff.mp hw
    have hlt' : i < items'.length := h.length_eq ▸ hlt
    refine ⟨items'[i], ?_, h.get hlt hlt'⟩
    unfold Json.step?
    rw [hi]
    exact List.getElem?_eq_getElem hlt'
  | @object members members' h =>
    have hf := findEntry h step
    rw [show ApiPlaybook.findEntry step members = some w from hw] at hf
    generalize ho : ApiPlaybook.findEntry step members' = o at hf
    cases hf with
    | both hg => exact ⟨_, ho, hg⟩

/-- A pointer that led somewhere leads to what has grown there. -/
theorem follow? {steps : List String} (h : v.Grows v') (hw : v.follow? steps = some w) :
    ∃ w', v'.follow? steps = some w' ∧ w.Grows w' := by
  induction steps generalizing v v' with
  | nil =>
    cases hw
    exact ⟨v', rfl, h⟩
  | cons step rest ih =>
    obtain ⟨u, hu, hw⟩ := Option.bind_eq_some_iff.mp hw
    obtain ⟨u', hu', hgrows⟩ := h.step? hu
    obtain ⟨w', hw', hg⟩ := ih hgrows hw
    refine ⟨w', ?_, hg⟩
    unfold Json.follow?
    rw [hu']
    exact hw'

theorem firstServer?_eq (h : v.Grows v') :
    ApiDocument.firstServer? v = ApiDocument.firstServer? v' := by
  have hservers := (h.member? "servers").items
  unfold ApiDocument.firstServer?
  generalize (v.member? "servers").bind Json.asArray? = o at hservers ⊢
  generalize (v'.member? "servers").bind Json.asArray? = o' at hservers ⊢
  cases hservers with
  | none => rfl
  | some hitems =>
    cases hitems with
    | nil => rfl
    | cons hfirst hrest => exact (hfirst.member? "url").text

/-- A value that is a text stays that text. -/
theorem asString?_eq (h : v.Grows v') : v.asString? = v'.asString? := by
  cases h <;> rfl

/-- A member that was there is there still. -/
theorem member?_some (h : v.Grows v') {name : String} (hw : v.member? name = some w) :
    ∃ w', v'.member? name = some w' ∧ w.Grows w' := by
  have hfound := h.member? name
  rw [hw] at hfound
  generalize ho : v'.member? name = o at hfound
  cases hfound with
  | both hg => exact ⟨_, rfl, hg⟩

/-- The entries of a list of parameters are the same in number, each grown. -/
theorem parameterEntries (h : v.Grows v') :
    List.Forall₂ Grows (ApiDocument.parameterEntries v) (ApiDocument.parameterEntries v') := by
  have hitems := (h.member? "parameters").items
  unfold ApiDocument.parameterEntries
  generalize (v.member? "parameters").bind Json.asArray? = o at hitems ⊢
  generalize (v'.member? "parameters").bind Json.asArray? = o' at hitems ⊢
  cases hitems with
  | none => exact .nil
  | some hitems => exact hitems

end Json.Grows

namespace ApiDocument

variable {d d₁ : ApiDocument} {v v' : Json} {name : String}

/-! ## §3. Documents that grow. -/

/-- The ids of all operations. -/
def operationIds (d : ApiDocument) : List String := d.operationPlaces.filterMap (·.id?)

/-- Values are added to the document that neither its references nor the ids of
operations lead to. -/
structure Adds (d d₁ : ApiDocument) : Prop where
  grows : d.content.Grows d₁.content
  /-- A reference of the document that led nowhere still does. -/
  unused : ∀ ref ∈ d.content.refs, ∀ k', d₁.target ref = .ok k' → ∃ k, d.target ref = .ok k
  /-- No operation with an id is added. -/
  ids : d₁.operationIds = d.operationIds

/-- What is added changes nothing of what is looked up. -/
theorem Adds.simulates (h : d.Adds d₁) : d.Simulates d₁ (d.Within Json.Grows) where
  atoms := fun _ _ hv => hv.2.sameAtoms
  followed := fun v v' ref w hv href ht => by
    obtain ⟨steps, hsteps, hw⟩ := target_eq_ok.mp ht
    obtain ⟨w', hw', hgrows⟩ := h.grows.follow? hw
    exact ⟨w', target_eq_ok.mpr ⟨steps, hsteps, hw'⟩,
      .of_rel ⟨refs_subset_of_target ht, hgrows⟩⟩
  stuck := fun v v' ref w' hv href ht =>
    h.unused ref (hv.ref_mem href) w' ht

/-- The server of the document is the same. -/
theorem Adds.defaultServer?_eq (h : d.Adds d₁) : d.defaultServer? = d₁.defaultServer? := by
  have hschemes := (h.grows.member? "schemes").items
  have hscheme : ((((d.content.member? "schemes").bind Json.asArray?).getD []).head?.bind
      Json.asString?) = ((((d₁.content.member? "schemes").bind Json.asArray?).getD []).head?.bind
      Json.asString?) := by
    generalize (d.content.member? "schemes").bind Json.asArray? = o at hschemes ⊢
    generalize (d₁.content.member? "schemes").bind Json.asArray? = o' at hschemes ⊢
    cases hschemes with
    | none => rfl
    | some hitems =>
      cases hitems with
      | nil => rfl
      | cons hfirst hrest => exact hfirst.asString?_eq
  unfold defaultServer? hostUrl?
  simp only [h.grows.firstServer?_eq, hscheme, (h.grows.member? "host").text,
    (h.grows.member? "basePath").text]

/-! ## §4. Operations of a document that grows. -/

/-- One list of operations is found again in another, at the same places. -/
def FoundAgain (S : Json → Json → Prop) (places places' : List OperationPlace) : Prop :=
  ∃ found, List.Forall₂ (SamePlace S) places found ∧ found.Sublist places'

namespace FoundAgain

variable {S : Json → Json → Prop} {ps ps' qs qs' : List OperationPlace}

/-- What is found in two parts is found in both together. -/
theorem append (hp : FoundAgain S ps ps') (hq : FoundAgain S qs qs') :
    FoundAgain S (ps ++ qs) (ps' ++ qs') := by
  obtain ⟨found, hsame, hsub⟩ := hp
  obtain ⟨found', hsame', hsub'⟩ := hq
  exact ⟨found ++ found', List.rel_append hsame hsame', hsub.append hsub'⟩

/-- What is found is found among more. -/
theorem among (hq : FoundAgain S qs qs') (ps' : List OperationPlace) :
    FoundAgain S qs (ps' ++ qs') :=
  append ⟨[], .nil, List.nil_sublist ps'⟩ hq

end FoundAgain

/-- Where no id is added, the operations with an id are the ones found again. -/
theorem FoundAgain.forall₂ {S : Json → Json → Prop} {ps ps' : List OperationPlace}
    (h : FoundAgain S ps ps') (hids : ps'.filterMap (·.id?) = ps.filterMap (·.id?)) :
    List.Forall₂ (SamePlace S) (ps.filter (·.id?.isSome)) (ps'.filter (·.id?.isSome)) := by
  obtain ⟨found, hsame, hsub⟩ := h
  have hnamed : List.Forall₂ (SamePlace S) (ps.filter (·.id?.isSome))
      (found.filter (·.id?.isSome)) :=
    List.rel_filter (fun p p' hp => by simp only [show p.id? = p'.id? from hp.own.id]) hsame
  have hlength := congrArg List.length hids
  rw [List.length_filterMap_eq_countP, List.length_filterMap_eq_countP,
    List.countP_eq_length_filter, List.countP_eq_length_filter] at hlength
  rwa [(hsub.filter _).eq_of_length (hnamed.length_eq.symm.trans hlength.symm)] at hnamed

/-- A member of a part of the document is a part of it. -/
theorem within_member?_some {w : Json} (h : d.Within Json.Grows v v')
    (hw : v.member? name = some w) :
    ∃ w', v'.member? name = some w' ∧ d.Within Json.Grows w w' := by
  obtain ⟨w', hw', hgrows⟩ := h.2.member?_some hw
  exact ⟨w', hw', List.Subset.trans (Json.refs_subset_of_member? hw) h.1, hgrows⟩

/-- An item of paths, or an operation, is read as before. -/
theorem within_readsAlike (h : d.Within Json.Grows v v') :
    ReadsAlike (d₁.Stands (d.Within Json.Grows)) v v' where
  id := h.2.sameAtoms.text "operationId"
  server := h.2.firstServer?_eq
  entries := (Within.parameterEntries h.1 h.2.parameterEntries).imp fun _ _ => .of_rel

/-- Of one path, method by method. -/
theorem foundAgain_pathOperations {item item' : Json} (h : d.Within Json.Grows item item')
    (path : String) :
    FoundAgain (d₁.Stands (d.Within Json.Grows)) (pathOperations path item)
      (pathOperations path item') := by
  unfold ApiDocument.pathOperations
  induction methods with
  | nil => exact ⟨[], .nil, .slnil⟩
  | cons method rest ih =>
    rw [← List.singleton_append, List.filterMap_append, List.filterMap_append]
    refine .append ?_ ih
    cases hop : item.member? method with
    | none => exact ⟨[], by simp [hop], List.nil_sublist _⟩
    | some op =>
      obtain ⟨op', hop', hgrows⟩ := within_member?_some h hop
      refine ⟨[⟨path, item', method, op'⟩], ?_, by simp [hop']⟩
      have hsame : SamePlace (d₁.Stands (d.Within Json.Grows)) ⟨path, item, method, op⟩
          ⟨path, item', method, op'⟩ := ⟨rfl, rfl, within_readsAlike h, within_readsAlike hgrows⟩
      simpa [hop] using hsame

/-- Of all paths. -/
theorem foundAgain_members {members members' : List (String × Json)}
    (h : MembersGrow Json.Grows members members')
    (hrefs : Json.refsInMembers members ⊆ d.content.refs) :
    FoundAgain (d₁.Stands (d.Within Json.Grows))
      (members.flatMap fun (path, item) => pathOperations path item)
      (members'.flatMap fun (path, item) => pathOperations path item) := by
  -- a path that is added has its operations among those of the paths that were there
  induction h with
  | nil => exact ⟨[], .nil, .slnil⟩
  | @keep path item item' members members' hitem h ih =>
    unfold Json.refsInMembers at hrefs
    rw [List.flatMap_cons, List.flatMap_cons]
    have hwithin := List.Subset.trans (List.subset_append_left _ _) hrefs
    exact .append (foundAgain_pathOperations ⟨hwithin, hitem⟩ path)
      (ih (List.Subset.trans (List.subset_append_right _ _) hrefs))
  | add hv hn h ih =>
    rw [List.flatMap_cons]
    exact (ih hrefs).among _

/-- **THE OPERATIONS OF THE DOCUMENT** are found again, in their order. -/
theorem Adds.operationPlaces (h : d.Adds d₁) :
    FoundAgain (d₁.Stands (d.Within Json.Grows)) d.operationPlaces d₁.operationPlaces := by
  unfold ApiDocument.operationPlaces
  cases hpaths : d.content.member? "paths" with
  | none => exact ⟨[], .nil, List.nil_sublist _⟩
  | some paths =>
    obtain ⟨paths', hpaths', hgrows⟩ := h.grows.member?_some hpaths
    have hrefs := Json.refs_subset_of_member? hpaths
    rw [hpaths']
    -- the paths are as before or have got more members; only an object has operations
    cases hgrows with
    | same =>
      cases paths with
      | object members =>
        rw [Json.refs] at hrefs
        exact foundAgain_members (.refl .same members)
          (List.Subset.trans (List.subset_append_right _ _) hrefs)
      | _ => exact ⟨[], .nil, .slnil⟩
    | array => exact ⟨[], .nil, .slnil⟩
    | object hmembers =>
      rw [Json.refs] at hrefs
      exact foundAgain_members hmembers (List.Subset.trans (List.subset_append_right _ _) hrefs)

/-- An operation that is found has an id. -/
theorem find?_named (places : List OperationPlace) (id : String) :
    (places.filter (·.id?.isSome)).find? (fun p => p.id? == some id)
      = places.find? fun p => p.id? == some id := by
  rw [List.find?_filter]
  congr 1
  funext p
  rw [Bool.eq_iff_iff, decide_eq_true_iff]
  exact and_iff_right_of_imp fun hid => by simp [eq_of_beq hid]

/-- **THE SAME OPERATIONS ARE FOUND.** -/
theorem Adds.operation?_eq (h : d.Adds d₁) (id : String) :
    (d.operation? id).value = (d₁.operation? id).value := by
  have hplace := rel_find? (h.operationPlaces.forall₂ h.ids) id
  rw [find?_named, find?_named] at hplace
  exact h.simulates.operation?_eq hplace h.defaultServer?_eq

/-! ## §5. Schemes of a document that grows. -/

/-- A name under which no scheme is added. -/
structure SchemeNotAdded (d d₁ : ApiDocument) (name : String) : Prop where
  component : d.componentScheme? name = none → d₁.componentScheme? name = none
  defined : d.definedScheme? name = none → d₁.definedScheme? name = none

/-- The whole document is a part of itself. -/
theorem Adds.within (h : d.Adds d₁) : d.Within Json.Grows d.content d₁.content :=
  ⟨List.Subset.refl _, h.grows⟩

/-- A scheme among the components is found again, unless one is added under its name. -/
theorem Adds.componentScheme? (h : d.Adds d₁) (hname : d.SchemeNotAdded d₁ name) :
    Option.Rel (d₁.Stands (d.Within Json.Grows)) (d.componentScheme? name)
      (d₁.componentScheme? name) := by
  cases hv : d.componentScheme? name with
  | none =>
    rw [hname.component hv]
    exact .none
  | some v =>
    obtain ⟨schemes, hschemes, hv⟩ := Option.bind_eq_some_iff.mp hv
    obtain ⟨components, hcomponents, hschemes⟩ := Option.bind_eq_some_iff.mp hschemes
    obtain ⟨components', hcomponents', hgrows⟩ := within_member?_some h.within hcomponents
    obtain ⟨schemes', hschemes', hgrows⟩ := within_member?_some hgrows hschemes
    obtain ⟨v', hv', hgrows⟩ := within_member?_some hgrows hv
    have hfound : d₁.componentScheme? name = some v' := by
      unfold ApiDocument.componentScheme?
      rw [hcomponents', Option.bind_some, hschemes', Option.bind_some, hv']
    rw [hfound]
    exact .some (.of_rel hgrows)

theorem Adds.definedScheme? (h : d.Adds d₁) (hname : d.SchemeNotAdded d₁ name) :
    Option.Rel (d₁.Stands (d.Within Json.Grows)) (d.definedScheme? name)
      (d₁.definedScheme? name) := by
  cases hv : d.definedScheme? name with
  | none =>
    rw [hname.defined hv]
    exact .none
  | some v =>
    obtain ⟨schemes, hschemes, hv⟩ := Option.bind_eq_some_iff.mp hv
    obtain ⟨schemes', hschemes', hgrows⟩ := within_member?_some h.within hschemes
    obtain ⟨v', hv', hgrows⟩ := within_member?_some hgrows hv
    have hfound : d₁.definedScheme? name = some v' := by
      unfold ApiDocument.definedScheme?
      rw [hschemes', Option.bind_some, hv']
    rw [hfound]
    exact .some (.of_rel hgrows)

/-- **THE SAME SCHEMES ARE FOUND**, under every name under which none is added. -/
theorem Adds.securityScheme?_eq (h : d.Adds d₁) (hname : d.SchemeNotAdded d₁ name) :
    (d.securityScheme? name).value = (d₁.securityScheme? name).value :=
  h.simulates.securityScheme?_eq
    (rel_declaredScheme? (h.componentScheme? hname) (h.definedScheme? hname))

end ApiDocument

end ApiPlaybook
