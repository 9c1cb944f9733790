/-
  ApiPlaybook.Proofs.Run.Causes
  ─────────────────────────────
  **WHY A RUN FAILS.**

  The first failure that a run reports has a cause of its own; all later ones
  pass it on.  There are ten causes.  Eight of them come before anything is sent
  (`Event.FailsUnsent`), the other two are that a request has no answer or not
  one that was expected (`Event.FailsSent`).
-/
import ApiPlaybook.Proofs.Run.Unwinding

namespace ApiPlaybook

/-! ## §1. The causes. -/

namespace Event

/-- Failures for which nothing had to be sent. -/
inductive FailsUnsent : Event → Prop where
  | tooDeep : FailsUnsent (.playbookAborted .tooDeep)
  | noReference (stage : Nat) : FailsUnsent (.playbookAborted (.noReference stage))
  | requestNotFound (ref : RequestRef) : FailsUnsent (.playbookAborted (.requestNotFound ref))
  | unknownCredential (name : String) : FailsUnsent (.authAborted (.unknownCredential name))
  | unknownMethod (key : CredentialKey) : FailsUnsent (.authAborted (.unknownMethod key))
  | credentialVariablesMissing (auth names : String) :
      FailsUnsent (.authAborted (.credentialVariablesMissing auth names))
  | variablesMissing (names : String) : FailsUnsent (.prepareFailed (.variablesMissing names))
  | notBuilt (error : BuildError) : FailsUnsent (.prepareFailed (.build error))

/-- Failures for what a transport said to a request. -/
inductive FailsSent (t : Transport) : Event → Prop where
  | notAnswered {sent : List HttpRequest} {request : HttpRequest} {error : TransportError}
      (h : t sent request = .error error) : FailsSent t (.transportFailed error)
  | notExpected {sent : List HttpRequest} {request : HttpRequest} {response : HttpResponse}
      (h : t sent request = .ok (.response response)) (error : RunError) :
      FailsSent t (.processingFailed error)

/-- A failure with a cause of its own. -/
def IsCause (t : Transport) (e : Event) : Prop := e.FailsUnsent ∨ e.FailsSent t

/-- A transport that answers each request by a mock reply gives no cause. -/
theorem IsCause.failsUnsent {e : Event} (h : e.IsCause .mock) : e.FailsUnsent := by
  rcases h with h | h
  · exact h
  · cases h with
    | notAnswered h => cases h
    | notExpected h => cases h

end Event

/-- The first failure of the trace is a cause. -/
def FailsFirst (t : Transport) (trace : List Event) : Prop :=
  ∃ before e after, trace = before ++ e :: after ∧ (∀ e' ∈ before, e'.isFailure = false) ∧
    e.isFailure = true ∧ e.IsCause t

namespace FailsFirst

variable {t : Transport} {x y : List Event}

/-- Events without a failure in front leave the first failure what it was. -/
theorem behind (hx : ∀ e ∈ x, e.isFailure = false) (hy : FailsFirst t y) :
    FailsFirst t (x ++ y) := by
  obtain ⟨before, e, after, rfl, hbefore, he, hcause⟩ := hy
  exact ⟨x ++ before, e, after, by rw [List.append_assoc],
    List.forall_mem_append.mpr ⟨hx, hbefore⟩, he, hcause⟩

/-- What comes behind the first failure does not matter. -/
theorem before (hx : FailsFirst t x) : FailsFirst t (x ++ y) := by
  obtain ⟨before, e, after, rfl, h⟩ := hx
  exact ⟨before, e, after ++ y, by rw [List.append_assoc]; rfl, h⟩

/-- A failure with a cause, all by itself. -/
theorem single {e : Event} (hf : e.isFailure = true) (h : e.IsCause t) : FailsFirst t [e] :=
  ⟨[], e, [], rfl, by simp, hf, h⟩

end FailsFirst

/-! ## §2. Every failure has a cause. -/

/-- The playbooks that a runner runs have a cause when they fail. -/
def Runner.FailsFirst (nested : Runner) (t : Transport) : Prop :=
  nested.Keeps t (fun _ _ _ => True) (fun _ _ trace => ApiPlaybook.FailsFirst t trace)

section Rules

variable {c : Setup} {t : Transport} {nested : Runner}

/-- A credential or a method that is not known fails before anything is sent. -/
theorem Setup.failsUnsent_of_method {auth : String} {e : RunError} (h : c.method auth = .error e) :
    (Event.authAborted e).FailsUnsent := by
  unfold Setup.method at h
  dsimp only at h
  split at h
  · cases h
    exact .unknownCredential _
  · split at h
    · cases h
      exact .unknownMethod _
    · cases h

/-- The first failure of a credential has a cause: it is its own, or one of its playbook. -/
theorem CredentialRun.failsFirst (hu : nested.Unwinds t) (hn : nested.FailsFirst t)
    {auth : String} {stack : ScopeStack} {m m' : Moment} {trace : List Event}
    (h : CredentialRun c t nested stack auth m ⟨none, trace, m'⟩) : FailsFirst t trace := by
  cases h with
  | unknown hm =>
    refine FailsFirst.behind (x := [.authStarted auth]) (by simp [Event.isFailure]) (.single rfl ?_)
    exact .inl (Setup.failsUnsent_of_method hm)
  | notAcquired hm hk hs ho =>
    have h : FailsFirst t _ := hn.failed ho
    exact (FailsFirst.behind (x := [.authStarted auth]) (by simp [Event.isFailure]) h).before
  | @incomplete key credential method scopes trace m' filled hm hk ha hf hmissing =>
    -- the acquisition succeeded; what it lacks shows when the template is filled in
    have hclean := (ha.clean hu).isFailure_eq
    rw [List.append_assoc]
    refine .behind (by simp [Event.isFailure]) (.behind hclean ?_)
    refine FailsFirst.behind
      (x := [.credentialSubstituted auth filled.value scopes filled.found filled.missing])
      (by simp [Event.isFailure]) (.single rfl ?_)
    exact .inl (.credentialVariablesMissing auth _)

/-- Of several credentials only the last one that was tried can have failed. -/
theorem CredentialsRun.failsFirst (hu : nested.Unwinds t) (hn : nested.FailsFirst t)
    {auths : List String} {stack : ScopeStack} {result : AuthResult} {m m' : Moment}
    {trace : List Event}
    (h : CredentialsRun c t nested stack auths result m ⟨none, trace, m'⟩) :
    FailsFirst t trace := by
  -- the outcome is an index of the rules, so it has to vary along the induction
  generalize ho : (⟨none, trace, m'⟩ : Outcome AuthResult) = o at h
  induction h generalizing trace with
  | done => cases ho
  | failed h =>
    cases ho
    exact h.failsFirst hu hn
  | next h hr ih =>
    cases ho
    have hclean : Clean _ := h.unwinds hu
    exact .behind hclean.isFailure_eq (ih rfl)

/-- Every mock reply is expected. -/
theorem Stage.response_of_unexpected {s : Stage} {request : Request} {reply : Reply}
    {e : RunError} (h : s.unexpected? request reply = some e) : ∃ r, reply = .response r := by
  cases reply with
  | mock => cases h
  | response r => exact ⟨r, rfl⟩

/-- No rule fails on a mock reply. -/
theorem Responses.response_of_error {rs : Responses} {id : String} {http : HttpRequest}
    {reply : Reply} {e : ExtractionError} (h : rs.extract id http reply = .error e) :
    ∃ r, reply = .response r := by
  cases reply with
  | mock => cases h
  | response r => exact ⟨r, rfl⟩

/-- A request fails before it is sent, or because of the answer to it. -/
theorem RequestRun.failsFirst {playbook : String} {index : Nat} {s : Stage} {outer : ScopeStack}
    {request : Request} {credentials : AuthResult} {m m' : Moment} {trace : List Event}
    (h : RequestRun c t playbook index s outer request credentials m ⟨none, trace, m'⟩) :
    FailsFirst t trace := by
  -- each trace ends with its only failure
  have ending {x : List Event} {e : Event} (hx : ∀ e' ∈ x, e'.isFailure = false)
      (hf : e.isFailure = true) (h : e.IsCause t) : FailsFirst t (x ++ [e]) :=
    .behind hx (.single hf h)
  cases h with
  | @variablesMissing p hp hn =>
    exact ending (x := [p.report]) (by simp [Payload.report, Event.isFailure]) rfl
      (.inl (.variablesMissing _))
  | @notBuilt p e hp hn hb =>
    exact ending (x := [p.report]) (by simp [Payload.report, Event.isFailure]) rfl
      (.inl (.notBuilt e))
  | @notSent p http e hp hn hb ha =>
    exact ending (x := [p.report, .requestPrepared http request.operationId])
      (by simp [Payload.report, Event.isFailure]) rfl (.inr (.notAnswered ha))
  | @unexpected p http reply e hp hn hb ha hu =>
    obtain ⟨r, rfl⟩ := Stage.response_of_unexpected hu
    exact ending (x := [p.report, .requestPrepared http request.operationId,
      .responseReceived (.response r)]) (by simp [Payload.report, Event.isFailure]) rfl
      (.inr (.notExpected ha e))
  | @requestRulesFailed p http reply e hp hn hb ha hu h₁ =>
    obtain ⟨r, rfl⟩ := Responses.response_of_error h₁
    exact ending (x := [p.report, .requestPrepared http request.operationId,
      .responseReceived (.response r)]) (by simp [Payload.report, Event.isFailure]) rfl
      (.inr (.notExpected ha _))
  | @stageRulesFailed p http reply first e hp hn hb ha hu h₁ h₂ =>
    obtain ⟨r, rfl⟩ := Responses.response_of_error h₂
    exact ending (x := [p.report, .requestPrepared http request.operationId,
      .responseReceived (.response r), .variablesAssigned first])
      (by simp [Payload.report, Event.isFailure]) rfl (.inr (.notExpected ha _))

/-- A stage fails for want of a request, by a credential, or by its request. -/
theorem StageRun.failsFirst (hu : nested.Unwinds t) (hn : nested.FailsFirst t)
    {playbook : String} {index : Nat} {s : Stage} {outer : ScopeStack} {m m' : Moment}
    {trace : List Event}
    (h : StageRun c t nested playbook index s outer m ⟨none, trace, m'⟩) :
    FailsFirst t trace := by
  generalize ho : (⟨none, trace, m'⟩ : Outcome ScopeStack) = o at h
  cases h with
  | noRequest hr =>
    cases ho
    refine .single rfl (.inl ?_)
    rcases stageRequest_eq_error c hr with ⟨-, rfl⟩ | ⟨ref, -, -, rfl⟩
    · exact .noReference index
    · exact .requestNotFound ref
  | noCredentials hr hc =>
    cases ho
    rw [List.append_assoc]
    exact .behind (by simp [Event.isFailure]) (hc.failsFirst hu hn).before
  | @ran ref request credentials trace' m'' o hr hc hrun =>
    obtain ⟨v, trace'', m₁⟩ := o
    cases ho
    -- the credentials were had, so the failure is one of the request
    have hclean : Clean trace' := hc.unwinds hu
    rw [List.append_assoc]
    exact .behind (by simp [Event.isFailure]) (.behind hclean.isFailure_eq hrun.failsFirst)

/-- Of several stages only the last one that was run can have failed. -/
theorem StagesRun.failsFirst (hu : nested.Unwinds t) (hn : nested.FailsFirst t)
    {playbook : String} {stack assigned : ScopeStack} {index : Nat} {stages : List Stage}
    {m m' : Moment} {trace : List Event}
    (h : StagesRun c t nested playbook stack index assigned stages m ⟨none, trace, m'⟩) :
    FailsFirst t trace := by
  generalize ho : (⟨none, trace, m'⟩ : Outcome ScopeStack) = o at h
  induction h generalizing trace with
  | done => cases ho
  | failed h =>
    cases ho
    exact h.failsFirst hu hn
  | next h hr ih =>
    cases ho
    have hclean : Clean _ := h.unwinds hu
    exact .behind hclean.isFailure_eq (ih rfl)

end Rules

section Playbooks

variable (c : Setup) (t : Transport)

/-- By induction on the levels that are left, the first failure of a playbook has a cause. -/
theorem playbookWithin_failsFirst (levels depth : Nat) :
    Runner.FailsFirst (c.playbookWithin levels depth) t := by
  refine playbookWithin_induction c t
    (P := fun _ _ _ _ o => o.Keeps (fun _ => True) (FailsFirst t)) ?_ ?_ levels depth
  · intro name stages m
    refine FailsFirst.behind (x := [.playbookStarted name]) (by simp [Event.isFailure]) ?_
    exact .single rfl (.inl .tooDeep)
  · intro levels depth ih name stages stack m o h
    cases h with
    | failed hs =>
      have h := hs.failsFirst (playbookWithin_unwinds c t levels (depth + 1)) ih
      exact FailsFirst.behind (x := [.playbookStarted name]) (by simp [Event.isFailure]) h
    | finished hs => trivial

/-- **EVERY FAILURE HAS A CAUSE**: a run of playbooks reports no failure, or first one
with a cause of its own. -/
theorem PlaybooksRun.failsFirst {c : Setup} {t : Transport} {stack assigned v : ScopeStack}
    {ps : List Playbook} {m m' : Moment} {trace : List Event}
    (h : PlaybooksRun c t stack assigned ps m v trace m') :
    (∀ e ∈ trace, e.isFailure = false) ∨ FailsFirst t trace := by
  induction h with
  | done => exact .inl (by simp)
  | passedOver hp hr ih => exact ih
  | halted hp hn =>
    have h : FailsFirst t _ := (playbookWithin_failsFirst c t maxDepth 0).failed hn
    exact .inr h
  | next hp hn hr ih =>
    have hclean : Clean _ := (playbookAt_unwinds c t 0).done hn
    rcases ih with h | h
    · exact .inl (List.forall_mem_append.mpr ⟨hclean.isFailure_eq, h⟩)
    · exact .inr (.behind hclean.isFailure_eq h)

end Playbooks

end ApiPlaybook
