/-
  ApiPlaybook.Proofs.Run.Rules
  ────────────────────────────
  **ALL THAT A RUN CAN DO.**

  Obtaining a credential, running a stage, running a playbook: for each there is
  a relation with one rule for each way in which it can go, from the moment at
  which it starts to its outcome.  The functions that run follow the rules
  (`credentialRun_resolve`, `stageRun_stage`, `playbookWithin_induction`,
  `playbooksRun_runAll`), so a property of runs is proved by going through the
  rules.  Only where two runs are compared are the functions opened again.

  Playbooks acquire credentials by playbooks one level deeper.  The rules take
  that deeper runner as a parameter; the induction over the levels is made once,
  in `playbookWithin_induction`.
-/
import ApiPlaybook.Proofs.Run.Outcome

namespace ApiPlaybook

/-! ## §1. Obtaining credentials. -/

/-- The scheme by which a credential is carried. -/
def Setup.schemeFor (c : Setup) (key : CredentialKey) (credential : Credential) :
    Option SecurityScheme :=
  (c.api.securityScheme? key.credential).value.or credential.declaredScheme

/-- The scopes for the template of a method, when acquiring them succeeds. -/
inductive AcquisitionRun (t : Transport) (nested : Runner) (auth : String)
    (method : CredentialMethod) (stack : ScopeStack) (m : Moment) :
    ScopeStack → List Event → Moment → Prop where
  | direct (hs : method.stages = none) : AcquisitionRun t nested auth method stack m stack [] m
  | staged {stages : List Stage} {assigned : ScopeStack} {trace : List Event} {m' : Moment}
      (hs : method.stages = some stages)
      (hn : (nested auth stages stack).outcome t m = ⟨some assigned, trace, m'⟩) :
      AcquisitionRun t nested auth method stack m (stack ++ assigned) trace m'

/-- Obtaining one credential. -/
inductive CredentialRun (c : Setup) (t : Transport) (nested : Runner) (stack : ScopeStack)
    (auth : String) (m : Moment) : Outcome ResolvedCredential → Prop where
  /-- The bundle has no such credential or no such method. -/
  | unknown {e : RunError} (hm : c.method auth = .error e) :
      CredentialRun c t nested stack auth m ⟨none, [.authStarted auth, .authAborted e], m⟩
  | kept {key : CredentialKey} {credential : Credential} {method : CredentialMethod}
      {value : String} (hm : c.method auth = .ok (key, credential, method))
      (hk : m.cache.get? key = some value) :
      CredentialRun c t nested stack auth m
        ⟨some ⟨key, value, c.schemeFor key credential⟩,
          [.authStarted auth, .credentialFromCache auth value, .authFinished], m⟩
  | notAcquired {key : CredentialKey} {credential : Credential} {method : CredentialMethod}
      {stages : List Stage} {trace : List Event} {m' : Moment}
      (hm : c.method auth = .ok (key, credential, method)) (hk : m.cache.get? key = none)
      (hs : method.stages = some stages)
      (hn : (nested auth stages stack).outcome t m = ⟨none, trace, m'⟩) :
      CredentialRun c t nested stack auth m
        ⟨none, [.authStarted auth] ++ trace ++ [.authAborted (.acquisitionFailed auth)], m'⟩
  | incomplete {key : CredentialKey} {credential : Credential} {method : CredentialMethod}
      {scopes : ScopeStack} {trace : List Event} {m' : Moment} {filled : Replacement String}
      (hm : c.method auth = .ok (key, credential, method)) (hk : m.cache.get? key = none)
      (ha : AcquisitionRun t nested auth method stack m scopes trace m')
      (hf : substituteCredential method.template scopes = filled) (hn : filled.missing ≠ []) :
      CredentialRun c t nested stack auth m
        ⟨none, [.authStarted auth] ++ trace ++
          [.credentialSubstituted auth filled.value scopes filled.found filled.missing,
            .authAborted (.credentialVariablesMissing auth (missingNamesText filled.missing))],
          m'⟩
  | obtained {key : CredentialKey} {credential : Credential} {method : CredentialMethod}
      {scopes : ScopeStack} {trace : List Event} {m' : Moment} {filled : Replacement String}
      (hm : c.method auth = .ok (key, credential, method)) (hk : m.cache.get? key = none)
      (ha : AcquisitionRun t nested auth method stack m scopes trace m')
      (hf : substituteCredential method.template scopes = filled) (hn : filled.missing = []) :
      CredentialRun c t nested stack auth m
        ⟨some ⟨key, filled.value, c.schemeFor key credential⟩,
          [.authStarted auth] ++ trace ++
            [.credentialSubstituted auth filled.value scopes filled.found [], .authFinished],
          ⟨m'.cache.insert key filled.value, m'.sent⟩⟩

/-- Obtaining credentials in turn, the first failure ends it. -/
inductive CredentialsRun (c : Setup) (t : Transport) (nested : Runner) (stack : ScopeStack) :
    List String → AuthResult → Moment → Outcome AuthResult → Prop where
  | done {result : AuthResult} {m : Moment} :
      CredentialsRun c t nested stack [] result m ⟨some result, [], m⟩
  | failed {auth : String} {rest : List String} {result : AuthResult} {m m' : Moment}
      {trace : List Event} (hc : CredentialRun c t nested stack auth m ⟨none, trace, m'⟩) :
      CredentialsRun c t nested stack (auth :: rest) result m ⟨none, trace, m'⟩
  | next {auth : String} {rest : List String} {result : AuthResult} {m m' m'' : Moment}
      {trace trace' : List Event} {credential : ResolvedCredential} {v : Option AuthResult}
      (hc : CredentialRun c t nested stack auth m ⟨some credential, trace, m'⟩)
      (hr : CredentialsRun c t nested stack rest (result.insert auth credential) m'
        ⟨v, trace', m''⟩) :
      CredentialsRun c t nested stack (auth :: rest) result m ⟨v, trace ++ trace', m''⟩

section Credentials

variable (c : Setup) (t : Transport) (nested : Runner) (stack : ScopeStack) (auth : String)

/-- The scopes are acquired, or the stages of the method failed. -/
theorem acquisitionScopes_cases (method : CredentialMethod) (m : Moment) :
    (∃ scopes trace m', AcquisitionRun t nested auth method stack m scopes trace m' ∧
      (Setup.acquisitionScopes nested auth method stack).outcome t m
        = ⟨some scopes, trace, m'⟩) ∨
    (∃ stages trace m', method.stages = some stages ∧
      (nested auth stages stack).outcome t m = ⟨none, trace, m'⟩ ∧
      (Setup.acquisitionScopes nested auth method stack).outcome t m
        = ⟨none, trace ++ [.authAborted (.acquisitionFailed auth)], m'⟩) := by
  unfold Setup.acquisitionScopes
  cases hs : method.stages with
  | none =>
    -- nothing is run, and the template is filled in from the scopes of the stage
    exact .inl ⟨stack, [], m, .direct hs, rfl⟩
  | some stages =>
    rcases hn : (nested auth stages stack).outcome t m with ⟨_ | assigned, trace, m'⟩
    · refine .inr ⟨stages, trace, m', rfl, hn, ?_⟩
      simp [Step.outcome_orFail, hn]
    · refine .inl ⟨stack ++ assigned, trace, m', .staged hs hn, ?_⟩
      simp [Step.outcome_orFail, hn]

/-- **A CREDENTIAL IS RESOLVED BY THE RULES** of `CredentialRun`. -/
theorem credentialRun_resolve (m : Moment) :
    CredentialRun c t nested stack auth m ((c.resolve nested stack auth).outcome t m) := by
  unfold Setup.resolve
  cases hm : c.method auth with
  | error e => exact .unknown hm
  | ok found =>
    obtain ⟨key, credential, method⟩ := found
    -- a kept value ends the matter without any acquisition
    cases hk : m.cache.get? key with
    | some value =>
      have h : CredentialRun c t nested stack auth m _ := .kept hm hk
      simpa [Setup.credentialValue, hk, Setup.schemeFor] using h
    | none =>
      -- acquiring the scopes may fail, and so may filling in the template with them
      simp only [Setup.credentialValue, Setup.acquire, Step.outcome_bind, Step.outcome_report,
        Step.outcome_kept?, Outcome.andThen_some, hk]
      rcases acquisitionScopes_cases t nested stack auth method m with
        ⟨scopes, trace, m', ha, h⟩ | ⟨stages, trace, m', hs, hn, h⟩
      · rw [h]
        by_cases hf : (substituteCredential method.template scopes).missing = []
        · simpa [Replacement.isComplete, hf, Setup.schemeFor]
            using CredentialRun.obtained hm hk ha rfl hf
        · simpa [Replacement.isComplete, hf] using CredentialRun.incomplete hm hk ha rfl hf
      · rw [h]
        simpa using CredentialRun.notAcquired hm hk hs hn

/-- The credentials of a request, by induction on those that are left. -/
theorem credentialsRun_resolveAll (auths : List String) (result : AuthResult) (m : Moment) :
    CredentialsRun c t nested stack auths result m
      ((c.resolveAll nested stack auths result).outcome t m) := by
  -- the references left; each step changes the result and the moment, so both vary
  induction auths generalizing result m with
  | nil => exact .done
  | cons auth rest ih =>
    have hc := credentialRun_resolve c t nested stack auth m
    unfold Setup.resolveAll
    rw [Step.outcome_bind]
    rcases ho : (c.resolve nested stack auth).outcome t m with ⟨_ | credential, trace, m'⟩
    · rw [ho] at hc
      exact .failed hc
    · rw [ho] at hc
      exact .next hc (ih (result.insert auth credential) m')

end Credentials

/-! ## §2. Running a stage. -/

/-- The report that the values of a request were put in place. -/
def Payload.report (p : Payload) : Event := .payloadSubstituted p.stack p.found p.missing

/-- The references to credentials that count: a free request has none. -/
def Request.references (r : Request) : List String := if r.isExternal then [] else r.auth

/-- What a stage does once it has the credentials of its request. -/
inductive RequestRun (c : Setup) (t : Transport) (playbook : String) (index : Nat) (s : Stage)
    (outer : ScopeStack) (request : Request) (credentials : AuthResult) (m : Moment) :
    Outcome ScopeStack → Prop where
  | variablesMissing {p : Payload} (hp : s.payload request outer = p) (hn : p.missing ≠ []) :
      RequestRun c t playbook index s outer request credentials m
        ⟨none, [p.report, .prepareFailed (.variablesMissing (missingNamesText p.missing))], m⟩
  | notBuilt {p : Payload} {e : BuildError} (hp : s.payload request outer = p)
      (hn : p.missing = []) (hb : (c.prepare request p.template credentials).value = .error e) :
      RequestRun c t playbook index s outer request credentials m
        ⟨none, [p.report, .prepareFailed (.build e)], m⟩
  | notSent {p : Payload} {http : HttpRequest} {e : TransportError}
      (hp : s.payload request outer = p) (hn : p.missing = [])
      (hb : (c.prepare request p.template credentials).value = .ok http)
      (ha : t m.sent http = .error e) :
      RequestRun c t playbook index s outer request credentials m
        ⟨none, [p.report, .requestPrepared http request.operationId, .transportFailed e],
          m.sending http⟩
  | unexpected {p : Payload} {http : HttpRequest} {reply : Reply} {e : RunError}
      (hp : s.payload request outer = p) (hn : p.missing = [])
      (hb : (c.prepare request p.template credentials).value = .ok http)
      (ha : t m.sent http = .ok reply) (hu : s.unexpected? request reply = some e) :
      RequestRun c t playbook index s outer request credentials m
        ⟨none, [p.report, .requestPrepared http request.operationId, .responseReceived reply,
          .processingFailed e], m.sending http⟩
  | requestRulesFailed {p : Payload} {http : HttpRequest} {reply : Reply} {e : ExtractionError}
      (hp : s.payload request outer = p) (hn : p.missing = [])
      (hb : (c.prepare request p.template credentials).value = .ok http)
      (ha : t m.sent http = .ok reply) (hu : s.unexpected? request reply = none)
      (h₁ : request.responses.extract (stageRequestId playbook index) http reply = .error e) :
      RequestRun c t playbook index s outer request credentials m
        ⟨none, [p.report, .requestPrepared http request.operationId, .responseReceived reply,
          .processingFailed (.extraction e)], m.sending http⟩
  | stageRulesFailed {p : Payload} {http : HttpRequest} {reply : Reply} {first : Scope}
      {e : ExtractionError} (hp : s.payload request outer = p) (hn : p.missing = [])
      (hb : (c.prepare request p.template credentials).value = .ok http)
      (ha : t m.sent http = .ok reply) (hu : s.unexpected? request reply = none)
      (h₁ : request.responses.extract (stageRequestId playbook index) http reply = .ok first)
      (h₂ : s.responses.extract (stageId playbook index) http reply = .error e) :
      RequestRun c t playbook index s outer request credentials m
        ⟨none, [p.report, .requestPrepared http request.operationId, .responseReceived reply,
          .variablesAssigned first, .processingFailed (.extraction e)], m.sending http⟩
  | done {p : Payload} {http : HttpRequest} {reply : Reply} {first second : Scope}
      (hp : s.payload request outer = p) (hn : p.missing = [])
      (hb : (c.prepare request p.template credentials).value = .ok http)
      (ha : t m.sent http = .ok reply) (hu : s.unexpected? request reply = none)
      (h₁ : request.responses.extract (stageRequestId playbook index) http reply = .ok first)
      (h₂ : s.responses.extract (stageId playbook index) http reply = .ok second) :
      RequestRun c t playbook index s outer request credentials m
        ⟨some [first, second], [p.report, .requestPrepared http request.operationId,
          .responseReceived reply, .variablesAssigned first, .variablesAssigned second],
          m.sending http⟩

/-- Running a stage. -/
inductive StageRun (c : Setup) (t : Transport) (nested : Runner) (playbook : String)
    (index : Nat) (s : Stage) (outer : ScopeStack) (m : Moment) : Outcome ScopeStack → Prop where
  /-- The stage refers to no request of the bundle. -/
  | noRequest {e : RunError} (hr : c.stageRequest index s = .error e) :
      StageRun c t nested playbook index s outer m ⟨none, [.playbookAborted e], m⟩
  | noCredentials {ref : RequestRef} {request : Request} {trace : List Event} {m' : Moment}
      (hr : c.stageRequest index s = .ok (ref, request))
      (hc : CredentialsRun c t nested outer request.references .empty m ⟨none, trace, m'⟩) :
      StageRun c t nested playbook index s outer m
        ⟨none, [.requestStarted ref] ++ trace ++
          [.prepareFailed (.credentialsUnavailable request.auth)], m'⟩
  | ran {ref : RequestRef} {request : Request} {credentials : AuthResult} {trace : List Event}
      {m' : Moment} {o : Outcome ScopeStack}
      (hr : c.stageRequest index s = .ok (ref, request))
      (hc : CredentialsRun c t nested outer request.references .empty m
        ⟨some credentials, trace, m'⟩)
      (ho : RequestRun c t playbook index s outer request credentials m' o) :
      StageRun c t nested playbook index s outer m
        ⟨o.value, [.requestStarted ref] ++ trace ++ o.trace, o.after⟩

/-- Running stages from an index on, after some scopes were set. -/
inductive StagesRun (c : Setup) (t : Transport) (nested : Runner) (playbook : String)
    (stack : ScopeStack) :
    Nat → ScopeStack → List Stage → Moment → Outcome ScopeStack → Prop where
  | done {index : Nat} {assigned : ScopeStack} {m : Moment} :
      StagesRun c t nested playbook stack index assigned [] m ⟨some assigned, [], m⟩
  | failed {index : Nat} {assigned : ScopeStack} {s : Stage} {rest : List Stage} {m m' : Moment}
      {trace : List Event}
      (hs : StageRun c t nested playbook index s (stack ++ assigned) m ⟨none, trace, m'⟩) :
      StagesRun c t nested playbook stack index assigned (s :: rest) m ⟨none, trace, m'⟩
  | next {index : Nat} {assigned scopes : ScopeStack} {s : Stage} {rest : List Stage}
      {m m' m'' : Moment} {trace trace' : List Event} {v : Option ScopeStack}
      (hs : StageRun c t nested playbook index s (stack ++ assigned) m
        ⟨some scopes, trace, m'⟩)
      (hr : StagesRun c t nested playbook stack (index + 1) (assigned ++ scopes) rest m'
        ⟨v, trace', m''⟩) :
      StagesRun c t nested playbook stack index assigned (s :: rest) m
        ⟨v, trace ++ trace', m''⟩

section Stages

variable (c : Setup) (t : Transport) (nested : Runner) (playbook : String)

/-- The request of a stage is what its reference names in the bundle. -/
theorem stageRequest_eq_ok {index : Nat} {s : Stage} {ref : RequestRef} {request : Request}
    (h : c.stageRequest index s = .ok (ref, request)) :
    s.ref = some ref ∧ c.bundle.request? ref = some request := by
  unfold Setup.stageRequest at h
  split at h
  · cases h
  · next ref' hs =>
    split at h
    · cases h
    · next request' hr =>
      cases h
      exact ⟨hs, hr⟩

/-- A stage has no request when it names none or one that is not there. -/
theorem stageRequest_eq_error {index : Nat} {s : Stage} {e : RunError}
    (h : c.stageRequest index s = .error e) :
    (s.ref = none ∧ e = .noReference index) ∨
      ∃ ref, s.ref = some ref ∧ c.bundle.request? ref = none ∧ e = .requestNotFound ref := by
  unfold Setup.stageRequest at h
  split at h
  · next hs =>
    cases h
    exact .inl ⟨hs, rfl⟩
  · next ref hs =>
    split at h
    · next hr =>
      cases h
      exact .inr ⟨ref, hs, hr, rfl⟩
    · cases h

/-- The only thing that may be unexpected about a reply is its status. -/
theorem unexpected?_eq_some {s : Stage} {request : Request} {reply : Reply} {e : RunError}
    (h : s.unexpected? request reply = some e) :
    ∃ status expected, e = .unexpectedStatus status expected := by
  unfold Stage.unexpected? at h
  split at h
  · cases h
  · dsimp only at h
    split at h
    · cases h
    · cases h
      exact ⟨_, _, rfl⟩

/-- The part of a stage that comes behind the credentials. -/
def Setup.deliver (c : Setup) (playbook : String) (index : Nat) (s : Stage)
    (outer : ScopeStack) (request : Request) (credentials : AuthResult) : Step ScopeStack := do
  let payload := s.payload request outer
  Step.report payload.report
  if !payload.missing.isEmpty then
    Step.fail (.prepareFailed (.variablesMissing (missingNamesText payload.missing)))
  match ← Step.ofCourse (.ofWarned (c.prepare request payload.template credentials)) with
  | .error e => Step.fail (.prepareFailed (.build e))
  | .ok http =>
    let reply ← exchange http request.operationId
    match s.unexpected? request reply with
    | some e => Step.fail (.processingFailed e)
    | none =>
      let first ← assignVariables (stageRequestId playbook index) request.responses http reply
      let second ← assignVariables (stageId playbook index) s.responses http reply
      return [first, second]

/-- With its request found, a stage is the credentials and then the delivery. -/
theorem stage_eq_deliver (index : Nat) (s : Stage) (outer : ScopeStack) {ref : RequestRef}
    {request : Request} (hr : c.stageRequest index s = .ok (ref, request)) :
    c.stage nested playbook index s outer = (do
      Step.report (.requestStarted ref)
      let credentials ← c.credentials nested request outer
      c.deliver playbook index s outer request credentials) := by
  unfold Setup.stage
  rw [hr]
  rfl

/-- **A REQUEST IS DELIVERED BY THE RULES** of `RequestRun`. -/
theorem requestRun_deliver (index : Nat) (s : Stage) (outer : ScopeStack) (request : Request)
    (credentials : AuthResult) (m : Moment) :
    RequestRun c t playbook index s outer request credentials m
      ((c.deliver playbook index s outer request credentials).outcome t m) := by
  -- one check after another, and for each the rule of the run that it ends
  unfold Setup.deliver
  by_cases hn : (s.payload request outer).missing = []
  · cases hb : (c.prepare request (s.payload request outer).template credentials).value with
    | error e => simpa [hn, hb] using RequestRun.notBuilt rfl hn hb
    | ok http =>
      cases ha : t m.sent http with
      | error e => simpa [hn, hb, exchange, ha] using RequestRun.notSent rfl hn hb ha
      | ok reply =>
        cases hu : s.unexpected? request reply with
        | some e => simpa [hn, hb, exchange, ha, hu] using RequestRun.unexpected rfl hn hb ha hu
        | none =>
          cases h₁ : request.responses.extract (stageRequestId playbook index) http reply with
          | error e =>
            simpa [hn, hb, exchange, ha, hu, assignVariables, h₁]
              using RequestRun.requestRulesFailed rfl hn hb ha hu h₁
          | ok first =>
            cases h₂ : s.responses.extract (stageId playbook index) http reply with
            | error e =>
              simpa [hn, hb, exchange, ha, hu, assignVariables, h₁, h₂]
                using RequestRun.stageRulesFailed rfl hn hb ha hu h₁ h₂
            | ok second =>
              simpa [hn, hb, exchange, ha, hu, assignVariables, h₁, h₂]
                using RequestRun.done rfl hn hb ha hu h₁ h₂
  · simpa [hn] using RequestRun.variablesMissing rfl hn

/-- A free request gets its credentials as one without references would. -/
theorem outcome_credentials (request : Request) (outer : ScopeStack) (m : Moment) :
    (c.credentials nested request outer).outcome t m =
      ((c.resolveAll nested outer request.references .empty).orFail
        (.prepareFailed (.credentialsUnavailable request.auth))).outcome t m := by
  unfold Setup.credentials Request.references
  cases request.isExternal with
  | true => rfl
  | false => rfl

/-- A stage goes by the rules of `StageRun`. -/
theorem stageRun_stage (index : Nat) (s : Stage) (outer : ScopeStack) (m : Moment) :
    StageRun c t nested playbook index s outer m
      ((c.stage nested playbook index s outer).outcome t m) := by
  cases hr : c.stageRequest index s with
  | error e =>
    unfold Setup.stage
    rw [hr]
    exact .noRequest hr
  | ok found =>
    obtain ⟨ref, request⟩ := found
    rw [stage_eq_deliver c nested playbook index s outer hr]
    simp only [Step.outcome_bind, Step.outcome_report, Outcome.andThen_some]
    rw [outcome_credentials, Step.outcome_orFail]
    have hc := credentialsRun_resolveAll c t nested outer request.references .empty m
    -- the stage fails with its credentials, or the request follows
    rcases ho : (c.resolveAll nested outer request.references .empty).outcome t m
      with ⟨_ | credentials, trace, m'⟩
    · rw [ho] at hc
      simpa using StageRun.noCredentials hr hc
    · rw [ho] at hc
      have hd := requestRun_deliver c t playbook index s outer request credentials m'
      simpa [Outcome.reporting] using StageRun.ran hr hc hd

theorem stagesRun_stages (stack : ScopeStack) (index : Nat) (assigned : ScopeStack)
    (stages : List Stage) (m : Moment) :
    StagesRun c t nested playbook stack index assigned stages m
      ((c.stages nested playbook stack index assigned stages).outcome t m) := by
  -- the stages left; the scopes that one sets are searched first by the next
  induction stages generalizing index assigned m with
  | nil => exact .done
  | cons s rest ih =>
    have hs := stageRun_stage c t nested playbook index s (stack ++ assigned) m
    unfold Setup.stages
    rw [Step.outcome_bind]
    rcases ho : (c.stage nested playbook index s (stack ++ assigned)).outcome t m
      with ⟨_ | scopes, trace, m'⟩
    · rw [ho] at hs
      exact .failed hs
    · rw [ho] at hs
      exact .next hs (ih (index + 1) (assigned ++ scopes) m')

end Stages

/-! ## §3. Running playbooks. -/

/-- Running a playbook that is not too deep, from the runner one level deeper. -/
inductive PlaybookRun (c : Setup) (t : Transport) (nested : Runner) (name : String)
    (stages : List Stage) (stack : ScopeStack) (m : Moment) : Outcome ScopeStack → Prop where
  | failed {trace : List Event} {m' : Moment}
      (hs : StagesRun c t nested name stack 0 [] stages m ⟨none, trace, m'⟩) :
      PlaybookRun c t nested name stages stack m ⟨none, [.playbookStarted name] ++ trace, m'⟩
  | finished {assigned : ScopeStack} {trace : List Event} {m' : Moment}
      (hs : StagesRun c t nested name stack 0 [] stages m ⟨some assigned, trace, m'⟩) :
      PlaybookRun c t nested name stages stack m
        ⟨some assigned, [.playbookStarted name] ++ trace ++ [.playbookFinished], m'⟩

/-- The outcome of a playbook that is started too deep. -/
def Outcome.tooDeep (name : String) (m : Moment) : Outcome ScopeStack :=
  ⟨none, [.playbookStarted name, .playbookAborted .tooDeep], m⟩

section Playbooks

variable (c : Setup) (t : Transport)

/-- With no level left a playbook says that it is too deep. -/
theorem outcome_playbookWithin_zero (depth : Nat) (name : String) (stages : List Stage)
    (stack : ScopeStack) (m : Moment) :
    (c.playbookWithin 0 depth name stages stack).outcome t m = .tooDeep name m := by
  unfold Setup.playbookWithin
  simp [Outcome.tooDeep]

/-- With a level left it goes by the rules of `PlaybookRun`. -/
theorem playbookRun_playbookWithin (levels depth : Nat) (name : String) (stages : List Stage)
    (stack : ScopeStack) (m : Moment) :
    PlaybookRun c t (c.playbookWithin levels (depth + 1)) name stages stack m
      ((c.playbookWithin (levels + 1) depth name stages stack).outcome t m) := by
  have hs := stagesRun_stages c t (c.playbookWithin levels (depth + 1)) name stack 0 [] stages m
  unfold Setup.playbookWithin
  simp only [Step.outcome_bind, Step.outcome_report, Outcome.andThen_some]
  rcases ho : (c.stages (c.playbookWithin levels (depth + 1)) name stack 0 [] stages).outcome t m
    with ⟨_ | assigned, trace, m'⟩
  · rw [ho] at hs
    exact .failed hs
  · rw [ho] at hs
    simpa using PlaybookRun.finished hs

/-- **INDUCTION OVER THE LEVELS**: what holds of a playbook that is started too
deep, and of a playbook when it holds of all playbooks one level deeper, holds
of every playbook that is run, in whatever scopes. -/
theorem playbookWithin_inductionIn
    {P : Nat → String → List Stage → ScopeStack → Moment → Outcome ScopeStack → Prop}
    (tooDeep : ∀ name stages stack m, P 0 name stages stack m (.tooDeep name m))
    (run : ∀ levels depth, (c.playbookWithin levels (depth + 1)).EnsuresIn t (P levels) →
      ∀ name stages stack m o,
        PlaybookRun c t (c.playbookWithin levels (depth + 1)) name stages stack m o →
          P (levels + 1) name stages stack m o) (levels depth : Nat) :
    (c.playbookWithin levels depth).EnsuresIn t (P levels) := by
  -- each level fewer is one deeper, so the depth varies
  induction levels generalizing depth with
  | zero =>
    intro name stages stack m
    rw [outcome_playbookWithin_zero]
    exact tooDeep name stages stack m
  | succ levels ih =>
    intro name stages stack m
    exact run levels depth (ih (depth + 1)) name stages stack m _
      (playbookRun_playbookWithin c t levels depth name stages stack m)

/-- The induction for what does not depend on the scopes. -/
theorem playbookWithin_induction
    {P : Nat → String → List Stage → Moment → Outcome ScopeStack → Prop}
    (tooDeep : ∀ name stages m, P 0 name stages m (.tooDeep name m))
    (run : ∀ levels depth, (c.playbookWithin levels (depth + 1)).Ensures t (P levels) →
      ∀ name stages stack m o,
        PlaybookRun c t (c.playbookWithin levels (depth + 1)) name stages stack m o →
          P (levels + 1) name stages m o) (levels depth : Nat) :
    (c.playbookWithin levels depth).Ensures t (P levels) :=
  playbookWithin_inductionIn c t (P := fun levels name stages _ => P levels name stages)
    (fun name stages _ => tooDeep name stages) run levels depth

/-- A playbook at a depth beyond the bound is too deep; any other one runs its
stages with playbooks one deeper. -/
theorem playbookAt_eq (depth : Nat) (name : String) (stages : List Stage) (stack : ScopeStack) :
    c.playbookAt depth name stages stack =
      if maxDepth ≤ depth then do
        Step.report (.playbookStarted name)
        Step.ofCourse (Course.warnAll [.depthLimit name depth])
        Step.fail (.playbookAborted .tooDeep)
      else do
        Step.report (.playbookStarted name)
        let assigned ← c.stages (c.playbookAt (depth + 1)) name stack 0 [] stages
        Step.report .playbookFinished
        return assigned := by
  unfold Setup.playbookAt
  by_cases h : maxDepth ≤ depth
  · rw [if_pos h, Nat.sub_eq_zero_of_le h]
    rfl
  · -- some level is left, and the playbooks one deeper have all but that one
    have hl : maxDepth - depth = (maxDepth - (depth + 1)) + 1 := by omega
    rw [if_neg h, hl]
    rfl

/-- Running playbooks in turn, after some scopes were set: those without stages
are passed over, the first that fails ends it. -/
inductive PlaybooksRun (c : Setup) (t : Transport) (stack : ScopeStack) :
    ScopeStack → List Playbook → Moment → ScopeStack → List Event → Moment → Prop where
  | done {assigned : ScopeStack} {m : Moment} :
      PlaybooksRun c t stack assigned [] m assigned [] m
  | passedOver {assigned v : ScopeStack} {p : Playbook} {rest : List Playbook} {m m' : Moment}
      {trace : List Event} (hp : p.stages.isEmpty = true)
      (hr : PlaybooksRun c t stack assigned rest m v trace m') :
      PlaybooksRun c t stack assigned (p :: rest) m v trace m'
  | halted {assigned : ScopeStack} {p : Playbook} {rest : List Playbook} {m m' : Moment}
      {trace : List Event} (hp : p.stages.isEmpty = false)
      (hn : (c.playbookAt 0 p.name p.stages (stack ++ assigned)).outcome t m
        = ⟨none, trace, m'⟩) :
      PlaybooksRun c t stack assigned (p :: rest) m assigned trace m'
  | next {assigned scopes v : ScopeStack} {p : Playbook} {rest : List Playbook}
      {m m' m'' : Moment} {trace trace' : List Event} (hp : p.stages.isEmpty = false)
      (hn : (c.playbookAt 0 p.name p.stages (stack ++ assigned)).outcome t m
        = ⟨some scopes, trace, m'⟩)
      (hr : PlaybooksRun c t stack (assigned ++ scopes) rest m' v trace' m'') :
      PlaybooksRun c t stack assigned (p :: rest) m v (trace ++ trace') m''

/-- A playbook without stages is passed over. -/
theorem PlaybooksRun.of_passedOver {c : Setup} {t : Transport} {stack assigned v : ScopeStack}
    {p : Playbook} {rest : List Playbook} {m m' : Moment} {trace : List Event}
    (hp : p.stages.isEmpty = true) (h : PlaybooksRun c t stack assigned (p :: rest) m v trace m') :
    PlaybooksRun c t stack assigned rest m v trace m' := by
  cases h with
  | passedOver _ hr => exact hr
  | halted hp' hn =>
    rw [hp] at hp'
    cases hp'
  | next hp' hn hr =>
    rw [hp] at hp'
    cases hp'

/-- A playbook with stages is run, and if it succeeds so are the others. -/
theorem PlaybooksRun.first_cases {c : Setup} {t : Transport} {stack assigned v : ScopeStack}
    {p : Playbook} {rest : List Playbook} {m m' : Moment} {trace : List Event}
    (hp : p.stages.isEmpty = false)
    (h : PlaybooksRun c t stack assigned (p :: rest) m v trace m') :
    (c.playbookAt 0 p.name p.stages (stack ++ assigned)).outcome t m = ⟨none, trace, m'⟩ ∨
      ∃ scopes before m₁ after,
        (c.playbookAt 0 p.name p.stages (stack ++ assigned)).outcome t m
          = ⟨some scopes, before, m₁⟩ ∧ trace = before ++ after ∧
        PlaybooksRun c t stack (assigned ++ scopes) rest m₁ v after m' := by
  cases h with
  | passedOver hp' hr =>
    rw [hp] at hp'
    cases hp'
  | halted _ hn => exact .inl hn
  | next _ hn hr => exact .inr ⟨_, _, _, _, hn, rfl, hr⟩

/-- A playbook that fails is the last one that is run. -/
theorem PlaybooksRun.of_halted {c : Setup} {t : Transport} {stack assigned v : ScopeStack}
    {p : Playbook} {rest : List Playbook} {m m₁ m' : Moment} {before trace : List Event}
    (hp : p.stages.isEmpty = false)
    (hn : (c.playbookAt 0 p.name p.stages (stack ++ assigned)).outcome t m = ⟨none, before, m₁⟩)
    (h : PlaybooksRun c t stack assigned (p :: rest) m v trace m') :
    v = assigned ∧ trace = before ∧ m' = m₁ := by
  cases h with
  | passedOver hp' hr =>
    rw [hp] at hp'
    cases hp'
  | halted _ hn' =>
    rw [hn] at hn'
    cases hn'
    exact ⟨rfl, rfl, rfl⟩
  | next _ hn' hr =>
    rw [hn] at hn'
    cases hn'

/-- Behind a playbook that succeeds the others are run. -/
theorem PlaybooksRun.of_next {c : Setup} {t : Transport} {stack assigned scopes v : ScopeStack}
    {p : Playbook} {rest : List Playbook} {m m₁ m' : Moment} {before trace : List Event}
    (hp : p.stages.isEmpty = false)
    (hn : (c.playbookAt 0 p.name p.stages (stack ++ assigned)).outcome t m
      = ⟨some scopes, before, m₁⟩)
    (h : PlaybooksRun c t stack assigned (p :: rest) m v trace m') :
    ∃ after, trace = before ++ after ∧
      PlaybooksRun c t stack (assigned ++ scopes) rest m₁ v after m' := by
  cases h with
  | passedOver hp' hr =>
    rw [hp] at hp'
    cases hp'
  | halted _ hn' =>
    rw [hn] at hn'
    cases hn'
  | next _ hn' hr =>
    rw [hn] at hn'
    cases hn'
    exact ⟨_, rfl, hr⟩

/-- The playbooks of a run go by the rules of `PlaybooksRun`, by induction on those that are left.
-/
theorem playbooksRun_playbooks (stack assigned : ScopeStack) (ps : List Playbook) (m : Moment) :
    ∃ m', PlaybooksRun c t stack assigned ps m
      ((c.playbooks stack m.cache assigned ps).run t m.sent).value
      ((c.playbooks stack m.cache assigned ps).run t m.sent).trace m' ∧
      ((c.playbooks stack m.cache assigned ps).run t m.sent).sent = m'.sent := by
  induction ps generalizing assigned m with
  | nil => exact ⟨m, .done, rfl⟩
  | cons p rest ih =>
    unfold Setup.playbooks
    by_cases hp : p.stages.isEmpty = true
    · rw [if_pos hp]
      obtain ⟨m', hr, hsent⟩ := ih assigned m
      exact ⟨m', .passedOver hp hr, hsent⟩
    · have hp' : p.stages.isEmpty = false := by simpa using hp
      rcases ho : (c.playbookAt 0 p.name p.stages (stack ++ assigned)).outcome t m
        with ⟨v, trace, m'⟩
      obtain ⟨warnings, hrun⟩ := Step.run_of_outcome ho
      rw [if_neg hp, Course.run_bind]
      simp only [hrun]
      cases v with
      | some scopes =>
        obtain ⟨m'', hr, hsent⟩ := ih (assigned ++ scopes) m'
        exact ⟨m'', .next hp' ho hr, hsent⟩
      | none =>
        -- the rest is only named in a warning
        obtain ⟨warnings', hw⟩ := Step.run_unless_warn t m'.sent
          ((rest.filter fun q => !q.stages.isEmpty).map (·.name)).isEmpty
          [.halted p.name ((rest.filter fun q => !q.stages.isEmpty).map (·.name))]
          (return assigned)
        dsimp only
        rw [hw]
        refine ⟨m', ?_, rfl⟩
        rw [show trace ++ (Course.run t m'.sent (return assigned)).trace = trace from
          List.append_nil trace]
        exact .halted hp' ho

/-- A run of playbooks starts with no credentials and nothing sent. -/
theorem playbooksRun_runAll (values : RuntimeValues) (extra : ScopeStack) (ps : List Playbook) :
    ∃ m, PlaybooksRun c t ([(c.bundle.importEnvironment values).scope] ++ extra) [] ps
      ⟨.empty, []⟩ ((c.runAll values extra ps).run t []).value
      ((c.runAll values extra ps).run t []).trace m ∧
      ((c.runAll values extra ps).run t []).sent = m.sent := by
  unfold Setup.runAll
  obtain ⟨warnings, hw⟩ := Step.run_unless_warn t []
    (c.bundle.importEnvironment values).missing.isEmpty
    [.missingRuntimeValues (c.bundle.importEnvironment values).missing]
    (c.playbooks ([(c.bundle.importEnvironment values).scope] ++ extra) .empty [] ps)
  rw [hw]
  exact playbooksRun_playbooks c t ([(c.bundle.importEnvironment values).scope] ++ extra) [] ps
    ⟨.empty, []⟩

end Playbooks

end ApiPlaybook
