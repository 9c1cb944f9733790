/-
  ApiPlaybook.Proofs.Extraction.Assignments
  ─────────────────────────────────────────
  **WHAT RULES SET AFTER A REPLY.**

  After a response the rules that its status selects are followed in the order of
  their names; after a mock reply all rules are taken, whatever they say.

      A scope is given exactly where each of the rules has a value.  It bears the
      id, is what its assignments say, and has one assignment for each rule, in
      name order; else the first rule without a value gives the error
      (`Responses.extract_response_eq_ok`, `Responses.extract_response_eq_error`).
      A mock reply always gives one, and a run with it sets all names that any
      response lets the same rules set (`Responses.extract_assigns`).
-/
import ApiPlaybook.Proofs.Extraction.Chains
import ApiPlaybook.Proofs.Extraction.Replays

namespace ApiPlaybook

/-! ## §1. Scopes of assignments. -/

/-- The scope bears the id, is what its assignments say, and these are for the names in turn. -/
structure Scope.IsEntry (scope : Scope) (id : String) (names : List String) : Prop where
  called : scope.id = id
  replays : scope.Replays
  names : scope.assignments.map (·.name) = names

/-- An entry is what some assignments of these names make of an empty scope. -/
theorem Scope.isEntry_iff {scope : Scope} {id : String} {names : List String} :
    scope.IsEntry id names ↔ ∃ made : List Assignment, made.map (·.name) = names ∧
      scope = (Scope.empty id).assignAll made := by
  constructor
  · intro h
    refine ⟨scope.assignments, h.names, ?_⟩
    rw [Scope.assignAll_empty, ← h.called, ← h.replays]
  · rintro ⟨made, rfl, rfl⟩
    rw [Scope.assignAll_empty]
    exact ⟨rfl, rfl, rfl⟩

/-! ## §2. What rules set. -/

namespace Responses

variable {rs : Responses} {id : String} {request : HttpRequest} {response : HttpResponse}

/-- Extraction succeeds when each rule has a value, and enters these values. -/
theorem extract_response_eq_ok {scope : Scope} :
    rs.extract id request (.response response) = .ok scope ↔
      scope.IsEntry id ((rs.rulesFor response.status).map (·.1)) ∧
        List.Forall₂ (Extracts request response) (rs.rulesFor response.status) scope.assignments := by
  rw [extract_response, extractInto_eq_ok, Scope.isEntry_iff]
  constructor
  · rintro ⟨made, hmade, rfl⟩
    refine ⟨⟨made, names_of_extracts hmade, rfl⟩, ?_⟩
    rwa [Scope.assignAll_empty]
  · rintro ⟨⟨made, -, rfl⟩, hmade⟩
    rw [Scope.assignAll_empty] at hmade
    exact ⟨made, hmade, rfl⟩

/-- It fails at the first rule that has none. -/
theorem extract_response_eq_error {e : ExtractionError} :
    rs.extract id request (.response response) = .error e ↔
      FirstFault request response (rs.rulesFor response.status) e := by
  rw [extract_response, extractInto_eq_error]

/-- The names that an extraction sets; one that fails sets none. -/
def namesSet : Except ExtractionError Scope → List String
  | .ok scope => scope.assignments.map (·.name)
  | .error _ => []

/-- After a mock reply all variables of all rules are set. -/
theorem namesSet_mock (rs : Responses) (id : String) (request : HttpRequest) :
    namesSet (rs.extract id request .mock) = rs.allVariables := by
  rw [extract_mock, Scope.assignAll_empty]
  exact rs.names_mockAssignments

/-- After a response no other variable is set. -/
theorem namesSet_response_subset (rs : Responses) (id : String) (request : HttpRequest)
    (response : HttpResponse) :
    namesSet (rs.extract id request (.response response)) ⊆ rs.allVariables := by
  cases h : rs.extract id request (.response response) with
  | ok scope =>
    -- the rules for a status are among all rules
    show scope.assignments.map (·.name) ⊆ _
    rw [(extract_response_eq_ok.mp h).1.names]
    exact rulesFor_subset rs response.status
  | error e => exact List.nil_subset _

/-- **RULES SET ALL OR NOTHING.**  After a response there is a scope exactly where every rule for
its status has a value.  It bears the id, its variables are what its assignments say, and these are
one for each rule, in the order of the names, with the value that the rule extracts; where there is
none, the error is that of the first rule without a value.  After a mock reply there always is one,
with an assignment for each rule of all, and no response lets the rules set another name. -/
theorem extract_assigns (rs : Responses) (id : String) (request : HttpRequest) :
    (∀ (response : HttpResponse) (scope : Scope),
      rs.extract id request (.response response) = .ok scope ↔
        scope.IsEntry id ((rs.rulesFor response.status).map (·.1)) ∧
          List.Forall₂ (Extracts request response) (rs.rulesFor response.status)
            scope.assignments) ∧
    (∀ status, ((rs.rulesFor status).map (·.1)).Pairwise (· < ·)) ∧
    (∀ (response : HttpResponse) (e : ExtractionError),
      rs.extract id request (.response response) = .error e ↔
        FirstFault request response (rs.rulesFor response.status) e) ∧
    (∃ scope, rs.extract id request .mock = .ok scope ∧
      scope.IsEntry id (rs.values.flatMap fun rules => rules.assignments.names) ∧
      scope.assignments = rs.mockAssignments) ∧
    ∀ (id' : String) (request' : HttpRequest) (response : HttpResponse),
      namesSet (rs.extract id' request' (.response response))
        ⊆ namesSet (rs.extract id request .mock) := by
  refine ⟨fun response scope => extract_response_eq_ok, rulesFor_sorted rs,
    fun response e => extract_response_eq_error, ?_, fun id' request' response => ?_⟩
  · refine ⟨_, extract_mock rs id request, ?_, ?_⟩
    · exact Scope.isEntry_iff.mpr ⟨rs.mockAssignments, rs.names_mockAssignments, rfl⟩
    · rw [Scope.assignAll_empty]
  · rw [namesSet_mock]
    exact namesSet_response_subset rs id' request' response

/-- A name of several rules is set once for each. -/
example (rule : ExtractionRule) (request : HttpRequest) :
    namesSet (extract (.ofList [("200", ⟨.ofList [("a", rule)]⟩),
      ("4xx", ⟨.ofList [("b", rule), ("a", rule)]⟩)]) "run" request .mock) = ["a", "a", "b"] := by
  cbv

end Responses

end ApiPlaybook
