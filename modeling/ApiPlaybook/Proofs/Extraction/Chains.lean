/-
  ApiPlaybook.Proofs.Extraction.Chains
  ────────────────────────────────────
  **RULES IN TURN.**

  Rules are followed one after the other, each sets its variable, and the first
  one without a value ends it.  So a chain of rules

      either gives the scope with one assignment more for each rule, in their
      order (`extractInto_eq_ok`),
      or the fault of the first rule that has no value, and no scope
      (`extractInto_eq_error`).
-/
import Mathlib.Data.List.Forall2
import ApiPlaybook.Extraction

namespace ApiPlaybook

/-! ## §1. Assignments in turn. -/

namespace Scope

/-- The scope with assignments made in turn. -/
def assignAll (s : Scope) (made : List Assignment) : Scope :=
  made.foldl (fun s a => s.assign a.name a.value) s

/-- Variables and assignments grow together, and the name stays. -/
theorem assignAll_eq (s : Scope) (made : List Assignment) : s.assignAll made
    = ⟨s.id, made.foldl (fun m a => m.insert a.name a.value) s.vars, s.assignments ++ made⟩ := by
  induction made generalizing s with
  | nil =>
    rw [List.append_nil]
    rfl
  | cons a rest ih =>
    show (s.assign a.name a.value).assignAll rest = _
    rw [ih, List.append_cons]
    rfl

end Scope

/-! ## §2. Chains of rules. -/

section Chain

variable {request : HttpRequest} {response : HttpResponse} {rules : List (String × ExtractionRule)}
  {made : List Assignment} {e : ExtractionError}

/-- The assignment is for the variable of the rule, with the value that the rule extracts. -/
structure Extracts (request : HttpRequest) (response : HttpResponse)
    (entry : String × ExtractionRule) (a : Assignment) : Prop where
  name : a.name = entry.1
  value : entry.2.extract request response = .ok a.value

/-- The error is that of a rule in front of which every rule has a value. -/
def FirstFault (request : HttpRequest) (response : HttpResponse)
    (rules : List (String × ExtractionRule)) (e : ExtractionError) : Prop :=
  ∃ before rule after, rules = before ++ (e.name, rule) :: after ∧
    (∀ entry ∈ before, ∃ value, entry.2.extract request response = .ok value) ∧
    rule.extract request response = .error e.fault

/-- A rule without a value comes first, or all of them have one. -/
theorem forall₂_extracts_or_firstFault (request : HttpRequest) (response : HttpResponse)
    (rules : List (String × ExtractionRule)) :
    (∃ made, List.Forall₂ (Extracts request response) rules made) ∨
      ∃ e, FirstFault request response rules e := by
  -- behind a rule with a value it is the rules left that decide
  induction rules with
  | nil => exact .inl ⟨[], .nil⟩
  | cons entry rest ih =>
    obtain ⟨name, rule⟩ := entry
    cases hvalue : rule.extract request response with
    | error fault => exact .inr ⟨⟨name, fault⟩, [], rule, rest, rfl, nofun, hvalue⟩
    | ok value =>
      rcases ih with ⟨made, hmade⟩ | ⟨e, before, failing, after, rfl, hbefore, hfault⟩
      · exact .inl ⟨⟨name, value⟩ :: made, .cons ⟨rfl, hvalue⟩ hmade⟩
      · refine .inr ⟨e, (name, rule) :: before, failing, after, rfl, ?_, hfault⟩
        exact List.forall_mem_cons.mpr ⟨⟨value, hvalue⟩, hbefore⟩

/-- Rules that all have a value assign one after another. -/
theorem extractInto_of_extracts (h : List.Forall₂ (Extracts request response) rules made)
    (scope : Scope) : extractInto request response scope rules = .ok (scope.assignAll made) := by
  induction h generalizing scope with
  | nil => rfl
  | @cons entry a rest made ha _ ih =>
    obtain ⟨name, rule⟩ := entry
    have hname : a.name = name := ha.name
    unfold extractInto
    rw [ha.value]
    dsimp only
    rw [ih, ← hname]
    rfl

/-- The first rule without a value ends the extraction with its fault. -/
theorem extractInto_of_firstFault (h : FirstFault request response rules e) (scope : Scope) :
    extractInto request response scope rules = .error e := by
  obtain ⟨before, rule, after, rfl, hbefore, hfault⟩ := h
  -- along the rules in front, each of which adds to the scope
  induction before generalizing scope with
  | nil =>
    rw [List.nil_append, extractInto, hfault]
  | cons entry rest ih =>
    obtain ⟨⟨value, hvalue⟩, hrest⟩ := List.forall_mem_cons.mp hbefore
    rw [List.cons_append, extractInto, hvalue]
    exact ih _ hrest

/-- **RULES GIVE A SCOPE** when each has a value, with one assignment for each. -/
theorem extractInto_eq_ok {scope scope' : Scope} :
    extractInto request response scope rules = .ok scope' ↔
      ∃ made, List.Forall₂ (Extracts request response) rules made ∧ scope' = scope.assignAll made := by
  constructor
  · intro h
    rcases forall₂_extracts_or_firstFault request response rules with ⟨made, hmade⟩ | ⟨e, he⟩
    · rw [extractInto_of_extracts hmade] at h
      exact ⟨made, hmade, (Except.ok.inj h).symm⟩
    · rw [extractInto_of_firstFault he] at h
      cases h
  · rintro ⟨made, hmade, rfl⟩
    exact extractInto_of_extracts hmade scope

/-- **RULES GIVE AN ERROR** when one has no value: that of the first of these. -/
theorem extractInto_eq_error {scope : Scope} :
    extractInto request response scope rules = .error e ↔ FirstFault request response rules e := by
  refine ⟨fun h => ?_, fun h => extractInto_of_firstFault h scope⟩
  rcases forall₂_extracts_or_firstFault request response rules with ⟨made, hmade⟩ | ⟨e', he'⟩
  · rw [extractInto_of_extracts hmade] at h
    cases h
  · rw [extractInto_of_firstFault he'] at h
    exact Except.error.inj h ▸ he'

/-- One assignment for each rule, of the same name. -/
theorem names_of_extracts (h : List.Forall₂ (Extracts request response) rules made) :
    made.map (·.name) = rules.map (·.1) := by
  induction h with
  | nil => rfl
  | cons ha _ ih => rw [List.map_cons, List.map_cons, ha.name, ih]

end Chain

/-! ## §3. Rules for a reply. -/

namespace Responses

/-- The rules that are followed after a status. -/
def rulesFor (rs : Responses) (status : Nat) : List (String × ExtractionRule) :=
  match rs.select? status with
  | some rules => rules.assignments.entries
  | none => []

/-- The rules for a response are applied to an empty scope. -/
theorem extract_response (rs : Responses) (id : String) (request : HttpRequest)
    (response : HttpResponse) : rs.extract id request (.response response)
      = extractInto request response (.empty id) (rs.rulesFor response.status) := by
  unfold extract rulesFor
  dsimp only
  cases rs.select? response.status with
  | some rules => rfl
  | none => rfl

/-- After a mock reply each rule sets its variable to the stand-in. -/
def mockAssignments (rs : Responses) : List Assignment :=
  rs.allVariables.map fun name => ⟨name, mockValue⟩

theorem names_mockAssignments (rs : Responses) :
    rs.mockAssignments.map (·.name) = rs.allVariables := by
  unfold mockAssignments
  rw [List.map_map]
  exact List.map_id _

/-- A mock reply assigns them all, whatever the request was. -/
theorem extract_mock (rs : Responses) (id : String) (request : HttpRequest) :
    rs.extract id request .mock = .ok ((Scope.empty id).assignAll rs.mockAssignments) := by
  unfold extract Scope.assignAll mockAssignments
  rw [List.foldl_map]

/-- The names of rules that are followed are different, and in their order. -/
theorem rulesFor_sorted (rs : Responses) (status : Nat) :
    ((rs.rulesFor status).map (·.1)).Pairwise (· < ·) := by
  unfold rulesFor
  cases rs.select? status with
  | some rules => exact List.pairwise_map.mpr rules.assignments.inOrder
  | none => exact .nil

/-- Rules that are followed are among all of them. -/
theorem exists_of_mem_rulesFor {rs : Responses} {status : Nat} {entry : String × ExtractionRule}
    (h : entry ∈ rs.rulesFor status) : ∃ rules ∈ rs.values, entry ∈ rules.assignments.entries := by
  unfold rulesFor at h
  split at h
  · next rules hselect => exact ⟨rules, select?_mem hselect, h⟩
  · cases h

/-- The rules for one status are among all rules. -/
theorem rulesFor_subset (rs : Responses) (status : Nat) :
    (rs.rulesFor status).map (·.1) ⊆ rs.allVariables := by
  intro name hname
  obtain ⟨entry, hentry, rfl⟩ := List.mem_map.mp hname
  obtain ⟨rules, hrules, hmem⟩ := exists_of_mem_rulesFor hentry
  exact List.mem_flatMap.mpr ⟨rules, hrules, List.mem_map.mpr ⟨entry, hmem, rfl⟩⟩

/-- A scope that is given comes of assignments to the names of rules. -/
theorem exists_assignAll_of_extract {rs : Responses} {id : String} {request : HttpRequest}
    {reply : Reply} {scope : Scope} (h : rs.extract id request reply = .ok scope) :
    ∃ made : List Assignment, made.map (·.name) ⊆ rs.allVariables ∧
      scope = (Scope.empty id).assignAll made := by
  cases reply with
  | mock =>
    rw [extract_mock] at h
    exact ⟨rs.mockAssignments, rs.names_mockAssignments ▸ List.Subset.refl _,
      (Except.ok.inj h).symm⟩
  | response response =>
    rw [extract_response] at h
    obtain ⟨made, hmade, rfl⟩ := extractInto_eq_ok.mp h
    exact ⟨made, names_of_extracts hmade ▸ rs.rulesFor_subset response.status, rfl⟩

end Responses

end ApiPlaybook
