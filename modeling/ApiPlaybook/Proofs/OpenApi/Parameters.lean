/-
  ApiPlaybook.Proofs.OpenApi.Parameters
  ─────────────────────────────────────
  **MERGING PARAMETERS LOSES AND INVENTS NOTHING.**

  An operation has the parameters of its path and its own.  Each entry of the two
  lists stands for a parameter, or is reported once (`Accounts`).  Of the
  parameters that agree in location and name one is kept:

      the last one of the operation, or else the last one of the path
      (`ApiParameter.mem_merge_append`),

  and those that are kept are listed by location and name (`parameters_merged`).
-/
import ApiPlaybook.OpenApi.Operation
import ApiPlaybook.Proofs.OpenApi.Chains

namespace ApiPlaybook

/-! ## §1. The order of parameters. -/

/-- The place of a location in the order in which parameters are listed. -/
def ParameterLocation.rank : ParameterLocation → Nat
  | .path => 0
  | .query => 1
  | .header => 2
  | .cookie => 3

theorem ParameterLocation.mem_all (l : ParameterLocation) : l ∈ all := by
  cases l <;> decide

theorem ParameterLocation.all_inOrder : all.Pairwise fun l m => l.rank < m.rank := by
  decide

/-- A location is found by its word. -/
theorem ParameterLocation.find?_word (l : ParameterLocation) :
    (all.find? fun m => m.word == l.word) = some l := by
  cases l <;> rfl

namespace ApiParameter

/-- By location, and in a location by name. -/
def Before (p q : ApiParameter) : Prop :=
  p.location.rank < q.location.rank ∨ (p.location = q.location ∧ p.name < q.name)

/-- A parameter stands before no other one of its location and name. -/
theorem Before.ne {p q : ApiParameter} (h : p.Before q) :
    ¬ (p.location = q.location ∧ p.name = q.name) := by
  rintro ⟨hl, hn⟩
  rcases h with h | ⟨-, h⟩
  · rw [hl] at h
    exact Nat.lt_irrefl _ h
  · rw [hn] at h
    exact String.lt_irrefl _ h

/-- The last parameter of a location and a name. -/
def lastAt? (ps : List ApiParameter) (l : ParameterLocation) (name : String) :
    Option ApiParameter :=
  ps.reverse.find? fun p => p.location == l && p.name == name

/-- Of two lists the second one counts first. -/
theorem lastAt?_append (ps qs : List ApiParameter) (l : ParameterLocation) (name : String) :
    lastAt? (ps ++ qs) l name = (lastAt? qs l name).or (lastAt? ps l name) := by
  unfold lastAt?
  rw [List.reverse_append, List.find?_append]

/-- The last parameter of a name is one of that name. -/
theorem of_lastAt? {ps : List ApiParameter} {l : ParameterLocation} {name : String}
    {p : ApiParameter} (h : lastAt? ps l name = some p) :
    p ∈ ps ∧ p.location = l ∧ p.name = name := by
  have hat := List.find?_some h
  simp only [Bool.and_eq_true, beq_iff_eq] at hat
  exact ⟨List.mem_reverse.mp (List.mem_of_find?_eq_some h), hat⟩

/-- Where there is one, there is a last one. -/
theorem exists_lastAt? {ps : List ApiParameter} {p : ApiParameter} (h : p ∈ ps) :
    ∃ q, lastAt? ps p.location p.name = some q := by
  rw [← Option.isSome_iff_exists, lastAt?, List.find?_isSome]
  exact ⟨p, List.mem_reverse.mpr h, by simp⟩

/-! ## §2. Merging. -/

/-- The parameters of one location that are kept. -/
def mergeAt (ps : List ApiParameter) (l : ParameterLocation) : List ApiParameter :=
  (NameMap.ofList ((ps.filter fun p => p.location == l).map fun p => (p.name, p.required))).entries.map
    fun e => ⟨e.1, l, e.2⟩

theorem merge_eq (ps : List ApiParameter) : merge ps = ParameterLocation.all.flatMap (mergeAt ps) :=
  rfl

/-- Merged at a location, parameters have that location. -/
theorem location_of_mem_mergeAt {ps : List ApiParameter} {l : ParameterLocation}
    {p : ApiParameter} (h : p ∈ mergeAt ps l) : p.location = l := by
  obtain ⟨e, -, rfl⟩ := List.mem_map.mp h
  rfl

/-- Of a name the last parameter is kept, with its own required flag. -/
theorem mem_mergeAt {ps : List ApiParameter} {p : ApiParameter} :
    p ∈ mergeAt ps p.location ↔ lastAt? ps p.location p.name = some p := by
  -- the map keeps the flag of the last parameter of a name
  have hlast : (NameMap.ofList ((ps.filter fun q => q.location == p.location).map
        fun q => (q.name, q.required))).get? p.name
      = (lastAt? ps p.location p.name).map (·.required) := by
    rw [NameMap.get?_ofList, ← List.map_reverse, List.find?_map, ← List.filter_reverse,
      List.find?_filter, Option.map_map]
    simp only [Bool.decide_and, Bool.decide_eq_true]
    rfl
  have hentry : p ∈ mergeAt ps p.location ↔
      (p.name, p.required) ∈ (NameMap.ofList ((ps.filter fun q => q.location == p.location).map
        fun q => (q.name, q.required))).entries := by
    unfold mergeAt
    rw [List.mem_map]
    constructor
    · rintro ⟨e, he, heq⟩
      rw [← heq]
      exact he
    · intro h
      exact ⟨_, h, rfl⟩
  -- an entry of the map is what is found under its name
  rw [hentry, NameMap.mem_entries_iff, hlast, Option.map_eq_some_iff]
  constructor
  · rintro ⟨q, hq, hr⟩
    obtain ⟨-, hl, hn⟩ := of_lastAt? hq
    rw [hq]
    cases p
    cases q
    simp_all
  · intro h
    exact ⟨p, h, rfl⟩

/-- **A PARAMETER IS KEPT** exactly if it is the last one of its location and name. -/
theorem mem_merge {ps : List ApiParameter} {p : ApiParameter} :
    p ∈ merge ps ↔ lastAt? ps p.location p.name = some p := by
  rw [← mem_mergeAt, merge_eq, List.mem_flatMap]
  constructor
  · rintro ⟨l, -, h⟩
    rw [location_of_mem_mergeAt h]
    exact h
  · intro h
    exact ⟨p.location, p.location.mem_all, h⟩

/-- One of the operation is kept, or else one of the path. -/
theorem mem_merge_append {general own : List ApiParameter} {p : ApiParameter} :
    p ∈ merge (general ++ own) ↔
      (lastAt? own p.location p.name).or (lastAt? general p.location p.name) = some p := by
  rw [mem_merge, lastAt?_append]

/-- The parameters that are kept are sorted by location and name. -/
theorem merge_sorted (ps : List ApiParameter) : (merge ps).Pairwise Before := by
  rw [merge_eq, List.pairwise_flatMap]
  constructor
  · -- in one location by name
    intro l _
    unfold mergeAt
    rw [List.pairwise_map]
    exact (NameMap.inOrder _).imp fun h => .inr ⟨rfl, h⟩
  · refine ParameterLocation.all_inOrder.imp fun h p hp q hq => .inl ?_
    rw [location_of_mem_mergeAt hp, location_of_mem_mergeAt hq]
    exact h

/-- What is kept of the parameters of a path and of an operation. -/
structure Merged (general own ps : List ApiParameter) : Prop where
  /-- They are listed by location and name, each once. -/
  sorted : ps.Pairwise Before
  /-- There is one for each location and name of the two lists, and no other. -/
  kept : ∀ l name, (∃ p ∈ ps, p.location = l ∧ p.name = name) ↔
    ∃ p ∈ general ++ own, p.location = l ∧ p.name = name
  /-- It is the last one of the operation, or else the last one of the path. -/
  last : ∀ p ∈ ps, (lastAt? own p.location p.name).or (lastAt? general p.location p.name) = some p

theorem merged_merge (general own : List ApiParameter) :
    Merged general own (merge (general ++ own)) where
  sorted := merge_sorted _
  last := fun _ h => mem_merge_append.mp h
  kept := by
    intro l name
    constructor
    · rintro ⟨p, hp, hat⟩
      exact ⟨p, (of_lastAt? (mem_merge.mp hp)).1, hat⟩
    · rintro ⟨p, hp, rfl, rfl⟩
      obtain ⟨q, hq⟩ := exists_lastAt? hp
      obtain ⟨-, hl, hn⟩ := of_lastAt? hq
      exact ⟨q, mem_merge.mpr (by rw [hl, hn]; exact hq), hl, hn⟩

end ApiParameter

/-! ## §3. Entries. -/

/-- The value is an object that describes a parameter; those in the path are required. -/
structure Json.Describes (j : Json) (p : ApiParameter) : Prop where
  name : j.member? "name" = some (.string p.name)
  location : j.member? "in" = some (.string p.location.word)
  required : p.required = true ↔ p.location = .path ∨ j.member? "required" = some (.bool true)

theorem Json.bind_asString? {o : Option Json} {s : String} :
    o.bind asString? = some s ↔ o = some (.string s) := by
  rcases o with _ | (_ | _ | _ | _ | _ | _) <;> simp [asString?]

/-- A value is read as a parameter when it describes it. -/
theorem ApiParameter.ofJson?_eq_some {j : Json} {p : ApiParameter} :
    ofJson? j = some p ↔ j.Describes p := by
  -- a flag that is absent or no truth value counts as false
  have hflag (o : Option Json) : (o.bind Json.asBool?).getD false = true ↔
      o = some (.bool true) := by
    rcases o with _ | (_ | _ | _ | _ | _ | _) <;> simp [Json.asBool?]
  unfold ofJson?
  constructor
  · intro h
    obtain ⟨name, hname, h⟩ := Option.bind_eq_some_iff.mp h
    obtain ⟨word, hword, h⟩ := Option.bind_eq_some_iff.mp h
    obtain ⟨l, hl, h⟩ := Option.bind_eq_some_iff.mp h
    cases h
    have hfound : l.word = word := by simpa using List.find?_some hl
    refine ⟨Json.bind_asString?.mp hname, ?_, ?_⟩
    · rw [hfound]
      exact Json.bind_asString?.mp hword
    · simp [hflag]
  · rintro ⟨hname, hlocation, hrequired⟩
    have hr : (p.location == .path || ((j.member? "required").bind Json.asBool?).getD false)
        = p.required := by
      rw [Bool.eq_iff_iff, hrequired, Bool.or_eq_true, hflag, beq_iff_eq]
    simp only [hname, hlocation, Option.bind_some, Json.asString?, bind, pure,
      ParameterLocation.find?_word, hr]

namespace ApiDocument

variable {d : ApiDocument} {id : String} {level : ParameterLevel}

/-- The entry stands for a parameter: a description of it is at the end of its references. -/
def Denotes (d : ApiDocument) (entry : Json) (p : ApiParameter) : Prop :=
  ∃ refs j, d.Leads entry refs j ∧ j.Describes p

/-- Why an entry stands for no parameter: its references lead nowhere, or what they lead to is
no description of one. -/
inductive Fails (d : ApiDocument) (entry : Json) : EntryFault → Prop
  | badRef {e : RefError} (h : d.deref entry = .error e) : Fails d entry (.badRef e)
  | notParameter {refs : List String} {j : Json} (h : d.Leads entry refs j)
    (hnot : ∀ p, ¬ j.Describes p) : Fails d entry .notParameter

/-- What came of each entry of a list: it gave a parameter, or else one warning.  Both stand in
the order of the entries. -/
inductive Accounts (d : ApiDocument) (id : String) (level : ParameterLevel) :
    List Json → List ApiParameter → List Warning → Prop
  | nil : Accounts d id level [] [] []
  | parameter {entry : Json} {entries : List Json} {p : ApiParameter} {ps : List ApiParameter}
    {ws : List Warning} (h : d.Denotes entry p) (hrest : Accounts d id level entries ps ws) :
    Accounts d id level (entry :: entries) (p :: ps) ws
  | fault {entry : Json} {entries : List Json} {f : EntryFault} {ps : List ApiParameter}
    {ws : List Warning} (h : d.Fails entry f) (hrest : Accounts d id level entries ps ws) :
    Accounts d id level (entry :: entries) ps (.badEntry id level f :: ws)

/-- An entry gives a parameter or a warning, not both. -/
theorem Fails.not_denotes {entry : Json} {f : EntryFault} {p : ApiParameter}
    (h : d.Fails entry f) : ¬ d.Denotes entry p := by
  rintro ⟨refs, j, hj, hp⟩
  cases h with
  | badRef h =>
    rw [deref_eq_ok.mpr ⟨refs, hj⟩] at h
    cases h
  | notParameter h hnot =>
    obtain ⟨-, rfl⟩ := hj.unique h
    exact hnot p hp

/-- Each parameter that is accounted for stands in some entry. -/
theorem Accounts.denotes {entries : List Json} {p : ApiParameter} {ps : List ApiParameter}
    {ws : List Warning} (h : d.Accounts id level entries ps ws) (hp : p ∈ ps) :
    ∃ entry, d.Denotes entry p := by
  induction h with
  | nil => cases hp
  | parameter h _ ih =>
    rcases List.mem_cons.mp hp with rfl | hp
    · exact ⟨_, h⟩
    · exact ih hp
  | fault _ _ ih => exact ih hp

/-- An entry stands for a parameter, or fails in one way. -/
theorem parameter_cases (d : ApiDocument) (entry : Json) :
    (∃ p, d.parameter entry = .ok p ∧ d.Denotes entry p) ∨
      ∃ f, d.parameter entry = .error f ∧ d.Fails entry f := by
  unfold ApiDocument.parameter
  cases hd : d.deref entry with
  | error e => exact .inr ⟨.badRef e, rfl, .badRef hd⟩
  | ok j =>
    obtain ⟨refs, hj⟩ := deref_eq_ok.mp hd
    cases hp : ApiParameter.ofJson? j with
    | some p =>
      refine .inl ⟨p, ?_, refs, j, hj, ApiParameter.ofJson?_eq_some.mp hp⟩
      simp only [hp]
    | none =>
      refine .inr ⟨.notParameter, ?_, .notParameter hj fun p h => ?_⟩
      · simp only [hp]
      · rw [ApiParameter.ofJson?_eq_some.mpr h] at hp
        cases hp

/-- The entries of a list are accounted for one by one. -/
theorem parametersOf_accounts (d : ApiDocument) (id : String) (level : ParameterLevel)
    (entries : List Json) :
    d.Accounts id level entries (d.parametersOf id level entries).value
      (d.parametersOf id level entries).warnings := by
  induction entries with
  | nil => exact .nil
  | cons entry rest ih =>
    unfold parametersOf at ih ⊢
    rcases d.parameter_cases entry with ⟨p, hp, hd⟩ | ⟨f, hf, hd⟩
    · simp only [List.map_cons, hp, Except.toOption, List.filterMap_cons]
      exact .parameter hd ih
    · simp only [List.map_cons, hf, Except.toOption, List.filterMap_cons]
      exact .fault hd ih

/-- **MERGING PARAMETERS LOSES AND INVENTS NOTHING.**  Each entry of the path item and of the
operation gives a parameter or one warning, the path item first; and of the parameters those are
kept that are the last of the operation, or else of the path item, in location and name.  In the
path all of them are required. -/
theorem parameters_merged (d : ApiDocument) (id : String) (place : OperationPlace) :
    ∃ general own faults ownFaults,
      d.Accounts id .pathItem (parameterEntries place.pathItem) general faults ∧
      d.Accounts id .operation (parameterEntries place.operation) own ownFaults ∧
      ApiParameter.Merged general own (d.parameters id place).value ∧
      (d.parameters id place).warnings = faults ++ ownFaults ∧
      ∀ p ∈ (d.parameters id place).value, p.location = .path → p.required = true := by
  have hgeneral := d.parametersOf_accounts id .pathItem (parameterEntries place.pathItem)
  have hown := d.parametersOf_accounts id .operation (parameterEntries place.operation)
  refine ⟨_, _, _, _, hgeneral, hown, ApiParameter.merged_merge _ _, ?_, ?_⟩
  · show _ ++ (_ ++ []) = _
    rw [List.append_nil]
  · intro p hp hpath
    -- what is kept was given by an entry, and its description says so
    have hmem : p ∈ (d.parametersOf id .pathItem (parameterEntries place.pathItem)).value ++
        (d.parametersOf id .operation (parameterEntries place.operation)).value :=
      (ApiParameter.of_lastAt? (ApiParameter.mem_merge.mp hp)).1
    have hgiven : ∃ entry, d.Denotes entry p := by
      rcases List.mem_append.mp hmem with h | h
      · exact hgeneral.denotes h
      · exact hown.denotes h
    obtain ⟨-, -, j, -, hj⟩ := hgiven
    exact hj.required.mpr (.inl hpath)

end ApiDocument

end ApiPlaybook
