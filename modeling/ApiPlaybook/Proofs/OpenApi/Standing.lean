/-
  ApiPlaybook.Proofs.OpenApi.Standing
  ───────────────────────────────────
  **TWO DOCUMENTS IN WHICH THE SAME IS LOOKED UP.**

  Look-ups read texts and truth values at the end of chains of references.  So two
  documents may well differ, also in how long these chains are.  Suppose that
  values of the one are related to values of the other, and that

      related values show the same texts and truth values, and
      where they are references, these lead to related values again, in the second
      document perhaps after some more references (`Simulates`).

  Then the same parameters, operations and security schemes are found
  (`Simulates.operation?_eq`, `Simulates.securityScheme?_eq`).
-/
import Mathlib.Data.List.Forall2
import ApiPlaybook.OpenApi.Operation
import ApiPlaybook.OpenApi.Security
import ApiPlaybook.Proofs.OpenApi.Chains

namespace ApiPlaybook

/-! ## §1. What is read of a value. -/

/-- The members show the same texts and truth values. -/
structure Json.SameAtoms (v v' : Json) : Prop where
  text : ∀ name, (v.member? name).bind asString? = (v'.member? name).bind asString?
  flag : ∀ name, (v.member? name).bind asBool? = (v'.member? name).bind asBool?

namespace Json.SameAtoms

variable {v v' : Json}

theorem refl (v : Json) : v.SameAtoms v := ⟨fun _ => rfl, fun _ => rfl⟩

/-- References are texts, so they are the same. -/
theorem ref?_eq (h : v.SameAtoms v') : v.ref? = v'.ref? := h.text "$ref"

/-- A parameter is read from texts and truth values only. -/
theorem parameter_eq (h : v.SameAtoms v') : ApiParameter.ofJson? v = ApiParameter.ofJson? v' := by
  unfold ApiParameter.ofJson?
  rw [h.text "name", h.text "in", h.flag "required"]

theorem scheme_eq (h : v.SameAtoms v') : SecurityScheme.ofJson? v = SecurityScheme.ofJson? v' := by
  unfold SecurityScheme.ofJson? SchemeKind.ofJson?
  rw [h.text "type", h.text "scheme", h.text "in", h.text "name"]

end Json.SameAtoms

namespace ApiDocument

/-! ## §2. Chains that run in step. -/

/-- From the second value references lead to one that is related to the first. -/
def Stands (d' : ApiDocument) (R : Json → Json → Prop) (v v' : Json) : Prop :=
  ∃ refs w, d'.Passes v' refs w ∧ R v w

/-- Chains of the two documents run in step from values that are related. -/
structure Simulates (d d' : ApiDocument) (R : Json → Json → Prop) : Prop where
  atoms : ∀ v v', R v v' → v.SameAtoms v'
  followed : ∀ v v' ref w, R v v' → v.ref? = some ref → d.target ref = .ok w →
    ∃ w', d'.target ref = .ok w' ∧ d'.Stands R w w'
  stuck : ∀ v v' ref w', R v v' → v.ref? = some ref → d'.target ref = .ok w' →
    ∃ w, d.target ref = .ok w

/-- Related values, of which the first has no references but those of the document. -/
def Within (d : ApiDocument) (R : Json → Json → Prop) (v v' : Json) : Prop :=
  v.refs ⊆ d.content.refs ∧ R v v'

section Simulation

variable {d d' : ApiDocument} {R : Json → Json → Prop} {v v' k k' : Json}
  {refs refs' : List String}

/-- A reference in a part of the document is one of the document. -/
theorem Within.ref_mem {ref : String} (h : d.Within R v v') (hr : v.ref? = some ref) :
    ref ∈ d.content.refs :=
  h.1 (Json.mem_refs_of_ref? hr)

/-- A related value stands for another one directly. -/
theorem Stands.of_rel (h : R v v') : d'.Stands R v v' := ⟨[], v', .here v', h⟩

/-- A chain of the first document has one of the second beside it, -/
theorem Simulates.leads (hs : d.Simulates d' R) (h : d.Leads v refs k) (hv : d'.Stands R v v') :
    ∃ refs' k', d'.Leads v' refs' k' ∧ k.SameAtoms k' := by
  obtain ⟨hp, hk⟩ := h
  induction hp generalizing v' with
  | here v =>
    obtain ⟨refs', w, hw, hr⟩ := hv
    have hatoms := hs.atoms _ _ hr
    exact ⟨refs', w, ⟨hw, hatoms.ref?_eq ▸ hk⟩, hatoms⟩
  | next href ht hp ih =>
    obtain ⟨before, w, hw, hr⟩ := hv
    obtain ⟨w', ht', hstands⟩ := hs.followed _ _ _ _ hr href ht
    obtain ⟨after, k', hleads, hatoms⟩ := ih hstands hk
    have href' := (hs.atoms _ _ hr).ref?_eq.symm.trans href
    exact ⟨_, k', .enter hw (.next href' ht' hleads), hatoms⟩

/-- and the other way round. -/
theorem Simulates.leads_back (hs : d.Simulates d' R) (h : d'.Leads v' refs' k')
    (hv : d'.Stands R v v') : ∃ refs k, d.Leads v refs k := by
  -- on the length of the chain, of which some references are skipped at each step
  induction hn : refs'.length using Nat.strongRecOn generalizing v v' refs' with
  | _ n ih =>
    obtain ⟨before, w, hw, hr⟩ := hv
    obtain ⟨rest, rfl, hrest⟩ := h.resume hw
    have href := (hs.atoms _ _ hr).ref?_eq
    obtain ⟨hp, hk⟩ := hrest
    cases hp with
    | here => exact ⟨[], v, .here (href.trans hk)⟩
    | @next w w' k' ref after hr' ht' hp =>
      obtain ⟨u, ht⟩ := hs.stuck _ _ _ _ hr (href.trans hr') ht'
      obtain ⟨u', ht'', hstands⟩ := hs.followed _ _ _ _ hr (href.trans hr') ht
      rw [ht'] at ht''
      cases ht''
      obtain ⟨refs, k, hleads⟩ := ih after.length (by simp at hn; omega) ⟨hp, hk⟩ hstands rfl
      exact ⟨ref :: refs, k, hleads.next (href.trans hr') ht⟩

/-- Both values stand for something that shows the same, or neither stands for anything. -/
theorem Simulates.deref (hs : d.Simulates d' R) (hv : d'.Stands R v v') :
    Option.Rel Json.SameAtoms (d.deref v).toOption (d'.deref v').toOption := by
  cases hd : d.deref v with
  | ok k =>
    obtain ⟨refs, h⟩ := deref_eq_ok.mp hd
    obtain ⟨refs', k', h', hatoms⟩ := hs.leads h hv
    rw [deref_eq_ok.mpr ⟨refs', h'⟩]
    exact .some hatoms
  | error e =>
    cases hd' : d'.deref v' with
    | error e' => exact .none
    | ok k' =>
      obtain ⟨refs', h'⟩ := deref_eq_ok.mp hd'
      obtain ⟨refs, k, h⟩ := hs.leads_back h' hv
      rw [deref_eq_ok.mpr ⟨refs, h⟩] at hd
      cases hd

/-- So whatever is read of what they stand for is the same. -/
theorem Simulates.read (hs : d.Simulates d' R) {α : Type} {f : Json → Option α}
    (hf : ∀ k k', k.SameAtoms k' → f k = f k') (hv : d'.Stands R v v') :
    (d.deref v).toOption.bind f = (d'.deref v').toOption.bind f := by
  have h := hs.deref hv
  generalize (d.deref v).toOption = o at h ⊢
  generalize (d'.deref v').toOption = o' at h ⊢
  cases h with
  | none => rfl
  | some hatoms => exact hf _ _ hatoms

/-! ## §3. Parameters and schemes. -/

/-- A parameter is read at the end of its chain. -/
theorem toOption_parameter (d : ApiDocument) (entry : Json) :
    (d.parameter entry).toOption = (d.deref entry).toOption.bind ApiParameter.ofJson? := by
  unfold ApiDocument.parameter
  cases d.deref entry with
  | error e => rfl
  | ok k => cases h : ApiParameter.ofJson? k <;> simp [Except.toOption, h]

theorem value_securityScheme? (d : ApiDocument) (name : String) :
    (d.securityScheme? name).value = (d.declaredScheme? name).bind fun declared =>
      (d.deref declared).toOption.bind SecurityScheme.ofJson? := by
  unfold securityScheme?
  cases d.declaredScheme? name with
  | none => rfl
  | some declared => cases h : d.deref declared <;> simp [Except.toOption, h] <;> rfl

/-- Entries that stand for each other give the same parameters. -/
theorem Simulates.parametersOf_eq (hs : d.Simulates d' R) {entries entries' : List Json}
    (h : List.Forall₂ (d'.Stands R) entries entries') (id : String) (level : ParameterLevel) :
    (d.parametersOf id level entries).value = (d'.parametersOf id level entries').value := by
  show (entries.map d.parameter).filterMap (·.toOption)
    = (entries'.map d'.parameter).filterMap (·.toOption)
  rw [List.filterMap_map, List.filterMap_map]
  induction h with
  | nil => rfl
  | @cons entry entry' rest rest' hv _ ih =>
    have hread := hs.read (fun _ _ hatoms => hatoms.parameter_eq) hv
    rw [← toOption_parameter, ← toOption_parameter] at hread
    rw [List.filterMap_cons, List.filterMap_cons, ih, Function.comp_apply, Function.comp_apply,
      hread]

theorem Simulates.securityScheme?_eq (hs : d.Simulates d' R) {name : String}
    (h : Option.Rel (d'.Stands R) (d.declaredScheme? name) (d'.declaredScheme? name)) :
    (d.securityScheme? name).value = (d'.securityScheme? name).value := by
  rw [value_securityScheme?, value_securityScheme?]
  generalize d.declaredScheme? name = o at h ⊢
  generalize d'.declaredScheme? name = o' at h ⊢
  cases h with
  | none => rfl
  | some hv => exact hs.read (fun _ _ hatoms => hatoms.scheme_eq) hv

/-- What the components declare under the name of a scheme. -/
def componentScheme? (d : ApiDocument) (name : String) : Option Json :=
  ((d.content.member? "components").bind (·.member? "securitySchemes")).bind (·.member? name)

/-- What the security definitions declare under the name of a scheme. -/
def definedScheme? (d : ApiDocument) (name : String) : Option Json :=
  (d.content.member? "securityDefinitions").bind (·.member? name)

/-- The references of a declared scheme are references of the document. -/
theorem refs_subset_of_declaredScheme? {name : String} (h : d.declaredScheme? name = some v) :
    v.refs ⊆ d.content.refs := by
  rcases Option.or_eq_some_iff.mp h with h | ⟨-, h⟩
  · obtain ⟨schemes, hs, hv⟩ := Option.bind_eq_some_iff.mp h
    obtain ⟨components, hc, hs⟩ := Option.bind_eq_some_iff.mp hs
    have hschemes := List.Subset.trans (Json.refs_subset_of_member? hs)
      (Json.refs_subset_of_member? hc)
    exact List.Subset.trans (Json.refs_subset_of_member? hv) hschemes
  · obtain ⟨schemes, hs, hv⟩ := Option.bind_eq_some_iff.mp h
    exact List.Subset.trans (Json.refs_subset_of_member? hv) (Json.refs_subset_of_member? hs)

/-- The components come before the security definitions. -/
theorem rel_declaredScheme? {S : Json → Json → Prop} {name : String}
    (hc : Option.Rel S (d.componentScheme? name) (d'.componentScheme? name))
    (hd : Option.Rel S (d.definedScheme? name) (d'.definedScheme? name)) :
    Option.Rel S (d.declaredScheme? name) (d'.declaredScheme? name) := by
  show Option.Rel S ((d.componentScheme? name).or (d.definedScheme? name))
    ((d'.componentScheme? name).or (d'.definedScheme? name))
  generalize d.componentScheme? name = o at hc ⊢
  generalize d'.componentScheme? name = o' at hc ⊢
  cases hc with
  | none => exact hd
  | some hv => exact .some hv

/-! ## §4. Operations. -/

/-- Those of an entry are references of its item. -/
theorem refs_subset_of_parameterEntries {item entry : Json} (h : entry ∈ parameterEntries item) :
    entry.refs ⊆ item.refs := by
  unfold parameterEntries at h
  cases hp : item.member? "parameters" with
  | none =>
    rw [hp] at h
    cases h
  | some v =>
    rw [hp] at h
    cases v with
    | array items =>
      have hitems := Json.refs_subset_of_member? hp
      rw [Json.refs] at hitems
      exact List.Subset.trans (Json.refs_subset_items h) hitems
    | _ => cases h

/-- The entries of a part of the document are parts of it. -/
theorem Within.parameterEntries (h : v.refs ⊆ d.content.refs)
    (hentries : List.Forall₂ R (parameterEntries v) (ApiDocument.parameterEntries v')) :
    List.Forall₂ (d.Within R) (ApiDocument.parameterEntries v)
      (ApiDocument.parameterEntries v') :=
  (List.forall₂_and_left _ _).mpr
    ⟨fun _ hentry => List.Subset.trans (refs_subset_of_parameterEntries hentry) h, hentries⟩

/-- Two path items, or two operations, that agree in id and server, with parameters that
are related. -/
structure ReadsAlike (S : Json → Json → Prop) (v v' : Json) : Prop where
  id : (v.member? "operationId").bind Json.asString?
    = (v'.member? "operationId").bind Json.asString?
  server : firstServer? v = firstServer? v'
  entries : List.Forall₂ S (parameterEntries v) (parameterEntries v')

/-- Two operations at the same place that are read alike. -/
structure SamePlace (S : Json → Json → Prop) (p p' : OperationPlace) : Prop where
  path : p.path = p'.path
  method : p.method = p'.method
  item : ReadsAlike S p.pathItem p'.pathItem
  own : ReadsAlike S p.operation p'.operation

/-- The first operation of an id is found at the same place. -/
theorem rel_find? {S : Json → Json → Prop} {places places' : List OperationPlace}
    (h : List.Forall₂ (SamePlace S) places places') (id : String) :
    Option.Rel (SamePlace S) (places.find? fun p => p.id? == some id)
      (places'.find? fun p => p.id? == some id) := by
  induction h with
  | nil => exact .none
  | @cons p p' rest rest' hp _ ih =>
    rw [List.find?_cons, List.find?_cons, show p.id? = p'.id? from hp.own.id]
    cases p'.id? == some id with
    | true => exact .some hp
    | false => exact ih

/-- **THE SAME OPERATIONS ARE FOUND**, at the same places and with the same parameters. -/
theorem Simulates.operation?_eq (hs : d.Simulates d' R) {id : String}
    (h : Option.Rel (SamePlace (d'.Stands R)) (d.place? id) (d'.place? id))
    (hd : d.defaultServer? = d'.defaultServer?) :
    (d.operation? id).value = (d'.operation? id).value := by
  unfold operation?
  generalize d.place? id = o at h ⊢
  generalize d'.place? id = o' at h ⊢
  cases h with
  | none => rfl
  | @some p p' hplace =>
    have hbase : d.baseUrl p = d'.baseUrl p' := by
      unfold baseUrl
      rw [hplace.own.server, hplace.item.server, hd]
    have hparameters : (d.parameters id p).value = (d'.parameters id p').value := by
      show ApiParameter.merge ((d.parametersOf id .pathItem (parameterEntries p.pathItem)).value
          ++ (d.parametersOf id .operation (parameterEntries p.operation)).value) = _
      rw [hs.parametersOf_eq hplace.item.entries, hs.parametersOf_eq hplace.own.entries]
      rfl
    show some (ApiOperation.mk id p.method.toUpper p.path (d.baseUrl p) (d.parameters id p).value)
      = some ⟨id, p'.method.toUpper, p'.path, d'.baseUrl p', (d'.parameters id p').value⟩
    rw [hplace.path, hplace.method, hbase, hparameters]

end Simulation

end ApiDocument

end ApiPlaybook
