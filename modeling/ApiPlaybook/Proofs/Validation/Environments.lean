/-
  ApiPlaybook.Proofs.Validation.Environments
  ──────────────────────────────────────────
  **THE ENVIRONMENT THAT IS CHECKED AND THE ONE THAT IS USED.**

  A bundle may choose the environment of its runs by name.  A run looks up the
  name that is chosen, or `default` where there is none or an empty one; the
  validation looks up the chosen name as it stands.  No other check reports at
  the place of this choice, since all violations of a part of the bundle are at
  the place of that part or below it (`Bundle.violations_at_environment`).

  So the validation reports a choice exactly when runs would use an environment
  that is not declared, but for the empty name: there it looks for `""` and a
  run for `"default"`, and they agree only where both are declared or neither
  is (`Bundle.reportsEnvironment_iff`).
-/
import ApiPlaybook.Bundle.Validation

namespace ApiPlaybook

/-! ## §1. Places. -/

/-- Writing a place only adds to the text that is written already. -/
theorem BundlePath.exists_foldl_text (path : BundlePath) (start : String) :
    ∃ tail, path.foldl (fun s p => s ++ p.text) start = start ++ tail := by
  induction path generalizing start with
  | nil => exact ⟨"", (String.append_empty).symm⟩
  | cons step rest ih =>
    obtain ⟨tail, htail⟩ := ih (start ++ step.text)
    exact ⟨step.text ++ tail, by rw [List.foldl_cons, htail, String.append_assoc]⟩

/-- A place below another one is written with the other one in front. -/
theorem BundlePath.text_prefix {path place : BundlePath} (h : path <+: place) :
    path.text.toList <+: place.text.toList := by
  obtain ⟨rest, rfl⟩ := h
  obtain ⟨tail, htail⟩ := BundlePath.exists_foldl_text rest path.text
  refine ⟨tail.toList, ?_⟩
  unfold BundlePath.text at htail ⊢
  rw [List.foldl_append, htail, String.toList_append]

/-- All violations are at the place or below it. -/
def Below (path : BundlePath) (vs : List Violation) : Prop := ∀ v ∈ vs, path <+: v.path

namespace Below

variable {path : BundlePath} {vs ws : List Violation}

/-- Where there are no violations, none is elsewhere. -/
theorem nil : Below path [] := nofun

/-- A single violation at a place that starts with the path. -/
theorem one (rest : BundlePath) (fault : Fault) : Below path [⟨path ++ rest, fault⟩] := by
  intro v hv
  cases List.mem_singleton.mp hv
  exact List.prefix_append path rest

/-- Two lists of violations below a place make one. -/
theorem append (hv : Below path vs) (hw : Below path ws) : Below path (vs ++ ws) :=
  fun v h => (List.mem_append.mp h).elim (hv v) (hw v)

/-- What is below a part is below the whole. -/
theorem whole {rest : BundlePath} (h : Below (path ++ rest) vs) : Below path vs :=
  fun v hv => (List.prefix_append path rest).trans (h v hv)

/-- The violations of all elements are below a place at which each element reports. -/
theorem flatMap {α : Type} {xs : List α} {f : α → List Violation} (h : ∀ x, Below path (f x)) :
    Below path (xs.flatMap f) := by
  intro v hv
  obtain ⟨x, -, hx⟩ := List.mem_flatMap.mp hv
  exact h x v hx

/-- What is reported at one place, if anything is. -/
theorem optional (rest : BundlePath) (fault? : Option Fault) :
    Below path ((fault?.map fun fault => ⟨path ++ rest, fault⟩).toList) := by
  cases fault? with
  | none => exact nil
  | some fault => exact one rest fault

end Below

section Parts

variable (b : Bundle) (path : BundlePath)

/-- What a response map reports is at one of its keys. -/
theorem Responses.violations_below (rs : Responses) : Below path (rs.violations path) := by
  intro v hv
  obtain ⟨key, -, rfl⟩ := List.mem_map.mp hv
  exact List.prefix_append path _

/-- A status that is out of range is reported where it stands. -/
theorem ResponseCode.violations_below (c : ResponseCode) : Below path (c.violations path) := by
  unfold ResponseCode.violations
  split
  · exact .nil
  · intro v hv
    cases List.mem_singleton.mp hv
    exact List.prefix_rfl

/-- What the credentials of a request violate is at their positions in the list. -/
theorem authViolations_below (refs : List String) : Below path (authViolations b path refs) := by
  intro v hv
  obtain ⟨⟨ref, i⟩, -, hv⟩ := List.mem_filterMap.mp hv
  obtain ⟨fault, -, rfl⟩ := Option.map_eq_some_iff.mp hv
  exact List.prefix_append path _

/-- A request reports what is wrong with its URL, and the faults of its parts, at members of it. -/
theorem Request.violations_below (r : Request) : Below path (r.violations b path) := by
  have hdefault := Below.whole
    (r.defaultResponse.violations_below (path ++ [.member "defaultResponse"]))
  have hauth := Below.whole (authViolations_below b (path ++ [.member "auth"]) r.auth)
  have hresponses := Below.whole (r.responses.violations_below (path ++ [.member "responses"]))
  unfold Request.violations
  refine .append (.append (.append ?_ hdefault) hauth) hresponses
  exact .optional _ _

/-- A stage reports what is wrong with its reference, with the status it expects and with its
response map, at members of it. -/
theorem Stage.violations_below (s : Stage) : Below path (s.violations b path) := by
  have hresponses := Below.whole (s.responses.violations_below (path ++ [.member "responses"]))
  unfold Stage.violations
  refine .append (.append (.optional _ _) ?_) hresponses
  cases s.expected with
  | none => exact .nil
  | some c => exact .whole (c.violations_below _)

/-- What the stages of a list violate is at their positions. -/
theorem stagesViolations_below (stages : List Stage) :
    Below path (stagesViolations b path stages) := by
  unfold stagesViolations
  refine .flatMap fun x => ?_
  have hstage := x.1.violations_below b (path ++ [.index x.2])
  exact .whole hstage

/-- An operation reports nothing of its own: all is at its request, at its stages or at the
stages of its examples. -/
theorem Operation.violations_below (o : Operation) : Below path (o.violations b path) := by
  have hrequest := Below.whole (o.request.violations_below b (path ++ [.member "request"]))
  have hbefore := Below.whole (stagesViolations_below b (path ++ [.member "before"]) o.before)
  have hafter := Below.whole (stagesViolations_below b (path ++ [.member "after"]) o.after)
  unfold Operation.violations
  refine .append (.append (.append hrequest hbefore) hafter) (.flatMap fun e => ?_)
  exact .whole (stagesViolations_below b _ e.2.stages)

/-- A credential reports a default method it does not have, and the faults of the stages of its
methods. -/
theorem Credential.violations_below (c : Credential) : Below path (c.violations b path) := by
  unfold Credential.violations
  refine .append ?_ (.flatMap fun e => ?_)
  · split
    · exact .nil
    · exact .one _ _
  · exact .whole (stagesViolations_below b _ _)

/-- What an environment violates is at one of its variables. -/
theorem EnvironmentDecl.violations_below (e : EnvironmentDecl) : Below path (e.violations path) := by
  intro v hv
  obtain ⟨entry, -, rfl⟩ := List.mem_map.mp hv
  exact List.prefix_append path _

end Parts

/-! ## §2. The chosen environment. -/

namespace Bundle

/-- How the place of the chosen environment is written. -/
theorem text_chosenEnvironmentPath :
    chosenEnvironmentPath.text = "$.runtimeConfiguration.environment" := by
  decide +kernel

/-- No violation below another part of the bundle is at the place of the chosen environment. -/
theorem filter_below (part : String) {vs : List Violation} (h : Below [.member part] vs)
    (hpart : ¬ ("$." ++ part).toList <+: "$.runtimeConfiguration.environment".toList) :
    vs.filter (fun v => v.path.text == "$.runtimeConfiguration.environment") = [] := by
  refine List.filter_eq_nil_iff.mpr fun v hv htext => hpart ?_
  have hprefix := BundlePath.text_prefix (h v hv)
  rw [beq_iff_eq.mp htext] at hprefix
  have hroot : BundlePath.text [.member part] = "$." ++ part := by
    show "$" ++ ("." ++ part) = _
    rw [← String.append_assoc]
    rfl
  rwa [hroot] at hprefix

/-- **AT THE PLACE OF THE CHOSEN ENVIRONMENT** only its own check reports. -/
theorem violations_at_environment (b : Bundle) :
    b.violations.filter (fun v => v.path.text == "$.runtimeConfiguration.environment")
      = b.environmentViolations := by
  have hown : b.environmentViolations.filter
      (fun v => v.path.text == "$.runtimeConfiguration.environment") = b.environmentViolations := by
    refine List.filter_eq_self.mpr fun v hv => ?_
    unfold environmentViolations at hv
    split at hv
    · split at hv
      · cases hv
      · cases List.mem_singleton.mp hv
        exact beq_iff_eq.mpr text_chosenEnvironmentPath
    · cases hv
  -- all other parts report under members of their own
  have hoperations : Below [.member "operations"] (b.operations.entries.flatMap fun e =>
      e.2.violations b [.member "operations", .member e.1]) :=
    .flatMap fun e => .whole (e.2.violations_below b _)
  have hrequests : Below [.member "requests"] (b.requests.entries.flatMap fun e =>
      e.2.violations b [.member "requests", .member e.1]) :=
    .flatMap fun e => .whole (e.2.violations_below b _)
  have hbefore := stagesViolations_below b [.member "before"] b.before
  have hafter := stagesViolations_below b [.member "after"] b.after
  have hcredentials : Below [.member "authenticationDetails"]
      (b.credentialGroups.zipIdx.flatMap fun g => g.1.entries.flatMap fun e =>
        e.2.violations b [.member "authenticationDetails", .index g.2, .member e.1]) := by
    refine .flatMap fun g => .flatMap fun e => ?_
    exact .whole (e.2.violations_below b _)
  have henvironments : Below [.member "environments"] (b.environments.entries.flatMap
      fun e => e.2.violations [.member "environments", .member e.1]) :=
    .flatMap fun e => .whole (e.2.violations_below _)
  unfold violations
  simp only [List.filter_append]
  rw [filter_below "operations" hoperations (by decide),
    filter_below "requests" hrequests (by decide), filter_below "before" hbefore (by decide),
    filter_below "after" hafter (by decide),
    filter_below "authenticationDetails" hcredentials (by decide),
    filter_below "environments" henvironments (by decide),
    hown, List.append_nil]
  rfl

/-- The validation reports the choice of the environment. -/
def ReportsEnvironment (b : Bundle) : Prop :=
  ∃ v ∈ b.violations, v.path.text = "$.runtimeConfiguration.environment"

/-- An environment is chosen, and what runs select is not declared. -/
def SelectsUndeclared (b : Bundle) : Prop :=
  b.chosenEnvironment.isSome = true ∧ b.environments.contains b.environmentName = false

/-- The validation reports the choice when a name is chosen that is not declared as it stands. -/
theorem reportsEnvironment_iff_exists (b : Bundle) :
    b.ReportsEnvironment ↔
      ∃ name, b.chosenEnvironment = some name ∧ b.environments.contains name = false := by
  have hfilter : b.ReportsEnvironment ↔ b.environmentViolations ≠ [] := by
    rw [← violations_at_environment, ne_eq, List.filter_eq_nil_iff]
    simp [ReportsEnvironment]
  rw [hfilter]
  unfold environmentViolations
  cases b.chosenEnvironment with
  | none => simp
  | some name => simp

/-- The name that runs look up is the chosen one, unless that is empty. -/
theorem environmentName_of_chosen {b : Bundle} {name : String}
    (h : b.chosenEnvironment = some name) :
    b.environmentName = if name = "" then "default" else name := by
  unfold environmentName
  rw [h]
  simp only [String.isEmpty_iff]

/-- **THE CHECK OF THE CHOSEN ENVIRONMENT.**  The validation reports at its place exactly when the
name that is chosen is not declared.  This is so exactly when runs would select an environment that
is not declared, except that of an empty name which is declared while `default` is not, or the
other way around. -/
theorem reportsEnvironment_iff (b : Bundle) :
    (b.ReportsEnvironment ↔
      ∃ name, b.chosenEnvironment = some name ∧ b.environments.contains name = false) ∧
    ((b.ReportsEnvironment ↔ b.SelectsUndeclared) ↔
      (b.chosenEnvironment = some "" →
        b.environments.contains "" = b.environments.contains "default")) := by
  refine ⟨b.reportsEnvironment_iff_exists, ?_⟩
  rw [reportsEnvironment_iff_exists, SelectsUndeclared]
  cases hchosen : b.chosenEnvironment with
  | none => simp
  | some name =>
    rw [environmentName_of_chosen hchosen]
    by_cases hempty : name = ""
    · subst hempty
      simp only [Option.some.injEq, exists_eq_left', Option.isSome_some, if_true, true_and,
        forall_const]
      generalize b.environments.contains "" = own, b.environments.contains "default" = fallback
      cases own <;> cases fallback <;> simp
    · simp [hempty]

/-- A bundle that chooses the environment of the empty name and declares one environment. -/
def choosingEmptyName (declared : String) : Bundle :=
  ⟨.empty, .empty, [], [], [], .ofList [(declared, ⟨.empty⟩)], some ⟨some ""⟩⟩

/-- With `default` declared the validation reports a bundle that runs as it should; with an
environment of the empty name it accepts one that runs without the variables it declares. -/
theorem not_reportsEnvironment_emptyName :
    ((choosingEmptyName "default").ReportsEnvironment ∧
      ¬ (choosingEmptyName "default").SelectsUndeclared) ∧
    (¬ (choosingEmptyName "").ReportsEnvironment ∧ (choosingEmptyName "").SelectsUndeclared) := by
  simp only [reportsEnvironment_iff_exists, SelectsUndeclared]
  refine ⟨⟨⟨"", rfl, by decide +kernel⟩, by decide +kernel⟩, ?_, by decide +kernel⟩
  rintro ⟨name, hname, hdeclared⟩
  cases hname
  exact absurd hdeclared (by decide +kernel)

end Bundle

end ApiPlaybook
