/-
  ApiPlaybook.Proofs.Run.Grammar
  ──────────────────────────────
  **THE GRAMMAR OF TRACES.**

  A trace is made of blocks: a block for each playbook, inside it one for each
  stage, inside that one for each reference to a credential, and inside that
  perhaps a playbook one level deeper.  Each kind of block comes in two forms.
  `…Done` is that of a success, and `…Failed` that of a failure: whole blocks for
  the parts that succeeded, then one failed block for the next part, and the
  event that passes the failure on.

      every run of playbooks reports a trace of this grammar (`runTrace_runAll`).

  The grammar knows the bundle and the depth, and neither the values of
  variables nor the transport.
-/
import ApiPlaybook.Proofs.Run.Rules

namespace ApiPlaybook

/-! ## §1. Blocks of parts that succeed. -/

/-- The events of a request that was sent and answered as expected. -/
inductive RequestDone (request : Request) : List Event → Prop where
  | intro {stack : ScopeStack} {found : List FoundVariable} {http : HttpRequest} {reply : Reply}
      {first second : Scope} :
      RequestDone request
        [.payloadSubstituted stack found [], .requestPrepared http request.operationId,
          .responseReceived reply, .variablesAssigned first, .variablesAssigned second]

mutual

/-- A playbook at a depth that finishes. -/
inductive PlaybookDone (c : Setup) : Nat → String → List Stage → List Event → Prop where
  | intro {depth : Nat} {name : String} {stages : List Stage} {body : List Event}
      (hd : depth < maxDepth) (hs : StagesDone c depth stages body) :
      PlaybookDone c depth name stages ([.playbookStarted name] ++ body ++ [.playbookFinished])

/-- One block for each stage, in order. -/
inductive StagesDone (c : Setup) : Nat → List Stage → List Event → Prop where
  | nil {depth : Nat} : StagesDone c depth [] []
  | cons {depth : Nat} {s : Stage} {rest : List Stage} {block blocks : List Event}
      (hs : StageDone c depth s block) (hr : StagesDone c depth rest blocks) :
      StagesDone c depth (s :: rest) (block ++ blocks)

inductive StageDone (c : Setup) : Nat → Stage → List Event → Prop where
  | intro {depth : Nat} {s : Stage} {ref : RequestRef} {request : Request}
      {credentials delivery : List Event}
      (hs : s.ref = some ref) (hr : c.bundle.request? ref = some request)
      (hc : CredentialsDone c depth request.references credentials)
      (hd : RequestDone request delivery) :
      StageDone c depth s ([.requestStarted ref] ++ credentials ++ delivery)

/-- One block for each reference to a credential, in order. -/
inductive CredentialsDone (c : Setup) : Nat → List String → List Event → Prop where
  | nil {depth : Nat} : CredentialsDone c depth [] []
  | cons {depth : Nat} {auth : String} {rest : List String} {block blocks : List Event}
      (hc : CredentialDone c depth auth block) (hr : CredentialsDone c depth rest blocks) :
      CredentialsDone c depth (auth :: rest) (block ++ blocks)

inductive CredentialDone (c : Setup) : Nat → String → List Event → Prop where
  | fromCache {depth : Nat} {auth value : String} {key : CredentialKey} {credential : Credential}
      {method : CredentialMethod} (hm : c.method auth = .ok (key, credential, method)) :
      CredentialDone c depth auth
        [.authStarted auth, .credentialFromCache auth value, .authFinished]
  | acquired {depth : Nat} {auth value : String} {key : CredentialKey} {credential : Credential}
      {method : CredentialMethod} {acquisition : List Event} {stack : ScopeStack}
      {found : List FoundVariable} (hm : c.method auth = .ok (key, credential, method))
      (ha : AcquisitionDone c depth auth method acquisition) :
      CredentialDone c depth auth
        ([.authStarted auth] ++ acquisition ++
          [.credentialSubstituted auth value stack found [], .authFinished])

/-- A playbook one level deeper, exactly if the method has stages. -/
inductive AcquisitionDone (c : Setup) : Nat → String → CredentialMethod → List Event → Prop where
  | direct {depth : Nat} {auth : String} {method : CredentialMethod}
      (hs : method.stages = none) : AcquisitionDone c depth auth method []
  | staged {depth : Nat} {auth : String} {method : CredentialMethod} {stages : List Stage}
      {block : List Event} (hs : method.stages = some stages)
      (hp : PlaybookDone c (depth + 1) auth stages block) :
      AcquisitionDone c depth auth method block

end

/-! ## §2. Blocks of parts that fail. -/

/-- The events of a request that was not sent, not answered, or not answered as
expected. -/
inductive RequestFailed (request : Request) : List Event → Prop where
  | variablesMissing {stack : ScopeStack} {found : List FoundVariable}
      {missing : List MissingVariable} (hn : missing ≠ []) :
      RequestFailed request
        [.payloadSubstituted stack found missing,
          .prepareFailed (.variablesMissing (missingNamesText missing))]
  | notBuilt {stack : ScopeStack} {found : List FoundVariable} {e : BuildError} :
      RequestFailed request [.payloadSubstituted stack found [], .prepareFailed (.build e)]
  | notSent {stack : ScopeStack} {found : List FoundVariable} {http : HttpRequest}
      {e : TransportError} :
      RequestFailed request
        [.payloadSubstituted stack found [], .requestPrepared http request.operationId,
          .transportFailed e]
  | unexpected {stack : ScopeStack} {found : List FoundVariable} {http : HttpRequest}
      {reply : Reply} {status : Nat} {expected : ResponseCode} :
      RequestFailed request
        [.payloadSubstituted stack found [], .requestPrepared http request.operationId,
          .responseReceived reply, .processingFailed (.unexpectedStatus status expected)]
  | notAssigned {stack : ScopeStack} {found : List FoundVariable} {http : HttpRequest}
      {reply : Reply} {e : ExtractionError} :
      RequestFailed request
        [.payloadSubstituted stack found [], .requestPrepared http request.operationId,
          .responseReceived reply, .processingFailed (.extraction e)]
  | halfAssigned {stack : ScopeStack} {found : List FoundVariable} {http : HttpRequest}
      {reply : Reply} {first : Scope} {e : ExtractionError} :
      RequestFailed request
        [.payloadSubstituted stack found [], .requestPrepared http request.operationId,
          .responseReceived reply, .variablesAssigned first, .processingFailed (.extraction e)]

mutual

/-- A playbook at a depth that does not finish. -/
inductive PlaybookFailed (c : Setup) : Nat → String → List Stage → List Event → Prop where
  | tooDeep {depth : Nat} {name : String} {stages : List Stage} (hd : maxDepth ≤ depth) :
      PlaybookFailed c depth name stages [.playbookStarted name, .playbookAborted .tooDeep]
  | stages {depth : Nat} {name : String} {stages : List Stage} {body : List Event}
      (hd : depth < maxDepth) (hs : StagesFailed c depth 0 stages body) :
      PlaybookFailed c depth name stages ([.playbookStarted name] ++ body)

/-- Stages from an index on: blocks for some of them, then the failed block of
the next. -/
inductive StagesFailed (c : Setup) : Nat → Nat → List Stage → List Event → Prop where
  | here {depth index : Nat} {s : Stage} {rest : List Stage} {block : List Event}
      (hs : StageFailed c depth index s block) : StagesFailed c depth index (s :: rest) block
  | later {depth index : Nat} {s : Stage} {rest : List Stage} {block blocks : List Event}
      (hs : StageDone c depth s block) (hr : StagesFailed c depth (index + 1) rest blocks) :
      StagesFailed c depth index (s :: rest) (block ++ blocks)

inductive StageFailed (c : Setup) : Nat → Nat → Stage → List Event → Prop where
  | noReference {depth index : Nat} {s : Stage} (hs : s.ref = none) :
      StageFailed c depth index s [.playbookAborted (.noReference index)]
  | notFound {depth index : Nat} {s : Stage} {ref : RequestRef} (hs : s.ref = some ref)
      (hr : c.bundle.request? ref = none) :
      StageFailed c depth index s [.playbookAborted (.requestNotFound ref)]
  | noCredentials {depth index : Nat} {s : Stage} {ref : RequestRef} {request : Request}
      {credentials : List Event}
      (hs : s.ref = some ref) (hr : c.bundle.request? ref = some request)
      (hc : CredentialsFailed c depth request.references credentials) :
      StageFailed c depth index s
        ([.requestStarted ref] ++ credentials ++
          [.prepareFailed (.credentialsUnavailable request.auth)])
  | request {depth index : Nat} {s : Stage} {ref : RequestRef} {request : Request}
      {credentials delivery : List Event}
      (hs : s.ref = some ref) (hr : c.bundle.request? ref = some request)
      (hc : CredentialsDone c depth request.references credentials)
      (hd : RequestFailed request delivery) :
      StageFailed c depth index s ([.requestStarted ref] ++ credentials ++ delivery)

/-- Blocks for some references, then the failed block of the next. -/
inductive CredentialsFailed (c : Setup) : Nat → List String → List Event → Prop where
  | here {depth : Nat} {auth : String} {rest : List String} {block : List Event}
      (hc : CredentialFailed c depth auth block) : CredentialsFailed c depth (auth :: rest) block
  | later {depth : Nat} {auth : String} {rest : List String} {block blocks : List Event}
      (hc : CredentialDone c depth auth block) (hr : CredentialsFailed c depth rest blocks) :
      CredentialsFailed c depth (auth :: rest) (block ++ blocks)

inductive CredentialFailed (c : Setup) : Nat → String → List Event → Prop where
  | unknown {depth : Nat} {auth : String} {e : RunError} (hm : c.method auth = .error e) :
      CredentialFailed c depth auth [.authStarted auth, .authAborted e]
  | notAcquired {depth : Nat} {auth : String} {key : CredentialKey} {credential : Credential}
      {method : CredentialMethod} {stages : List Stage} {block : List Event}
      (hm : c.method auth = .ok (key, credential, method)) (hs : method.stages = some stages)
      (hp : PlaybookFailed c (depth + 1) auth stages block) :
      CredentialFailed c depth auth
        ([.authStarted auth] ++ block ++ [.authAborted (.acquisitionFailed auth)])
  | incomplete {depth : Nat} {auth value : String} {key : CredentialKey}
      {credential : Credential} {method : CredentialMethod} {acquisition : List Event}
      {stack : ScopeStack} {found : List FoundVariable} {missing : List MissingVariable}
      (hm : c.method auth = .ok (key, credential, method))
      (ha : AcquisitionDone c depth auth method acquisition) (hn : missing ≠ []) :
      CredentialFailed c depth auth
        ([.authStarted auth] ++ acquisition ++
          [.credentialSubstituted auth value stack found missing,
            .authAborted (.credentialVariablesMissing auth (missingNamesText missing))])

end

/-- The trace of a list of playbooks: those without stages leave no event, and
nothing follows the first that fails. -/
inductive RunTrace (c : Setup) : List Playbook → List Event → Prop where
  | done : RunTrace c [] []
  | passedOver {p : Playbook} {rest : List Playbook} {blocks : List Event}
      (hp : p.stages.isEmpty = true) (hr : RunTrace c rest blocks) : RunTrace c (p :: rest) blocks
  | failed {p : Playbook} {rest : List Playbook} {block : List Event}
      (hp : p.stages.isEmpty = false) (hb : PlaybookFailed c 0 p.name p.stages block) :
      RunTrace c (p :: rest) block
  | next {p : Playbook} {rest : List Playbook} {block blocks : List Event}
      (hp : p.stages.isEmpty = false) (hb : PlaybookDone c 0 p.name p.stages block)
      (hr : RunTrace c rest blocks) : RunTrace c (p :: rest) (block ++ blocks)

/-! ## §3. Every run keeps to the grammar. -/

/-- The playbooks that a runner runs keep to the grammar at a depth. -/
def Runner.KeepsGrammar (nested : Runner) (c : Setup) (t : Transport) (depth : Nat) : Prop :=
  nested.Keeps t (PlaybookDone c depth) (PlaybookFailed c depth)

section Blocks

variable {c : Setup} {t : Transport} {nested : Runner} {depth : Nat}

/-- The scopes of a credential that were had follow the grammar of an acquisition. -/
theorem AcquisitionRun.done (hn : nested.KeepsGrammar c t (depth + 1)) {auth : String}
    {method : CredentialMethod} {stack scopes : ScopeStack} {m m' : Moment} {trace : List Event}
    (h : AcquisitionRun t nested auth method stack m scopes trace m') :
    AcquisitionDone c depth auth method trace := by
  cases h with
  | direct hs => exact .direct hs
  | staged hs ho => exact .staged hs (hn.done ho)

/-- Each rule for a credential is one of the blocks of the grammar. -/
theorem CredentialRun.keeps (hn : nested.KeepsGrammar c t (depth + 1)) {auth : String}
    {stack : ScopeStack} {m : Moment} {o : Outcome ResolvedCredential}
    (h : CredentialRun c t nested stack auth m o) :
    o.Keeps (CredentialDone c depth auth) (CredentialFailed c depth auth) := by
  cases h with
  | unknown hm => exact .unknown hm
  | kept hm hk => exact .fromCache hm
  | notAcquired hm hk hs ho => exact .notAcquired hm hs (hn.failed ho)
  | incomplete hm hk ha hf hmissing => exact .incomplete hm (ha.done hn) hmissing
  | obtained hm hk ha hf hmissing => exact .acquired hm (ha.done hn)

/-- Blocks of credentials in their order, and the failed one last. -/
theorem CredentialsRun.keeps (hn : nested.KeepsGrammar c t (depth + 1)) {auths : List String}
    {stack : ScopeStack} {result : AuthResult} {m : Moment} {o : Outcome AuthResult}
    (h : CredentialsRun c t nested stack auths result m o) :
    o.Keeps (CredentialsDone c depth auths) (CredentialsFailed c depth auths) := by
  induction h with
  | done => exact .nil
  | failed hc => exact .here (hc.keeps hn)
  | @next _ _ _ _ _ _ _ _ _ v hc hr ih =>
    -- the first block is whole; how the rest went decides between the two forms
    cases v with
    | some v =>
      show CredentialsDone c depth (_ :: _) (_ ++ _)
      exact .cons (hc.keeps hn) ih
    | none =>
      show CredentialsFailed c depth (_ :: _) (_ ++ _)
      exact .later (hc.keeps hn) ih

/-- Each place at which a request may end is one of the blocks of the grammar. -/
theorem RequestRun.keeps {playbook : String} {index : Nat} {s : Stage} {outer : ScopeStack}
    {request : Request} {credentials : AuthResult} {m : Moment} {o : Outcome ScopeStack}
    (h : RequestRun c t playbook index s outer request credentials m o) :
    o.Keeps (RequestDone request) (RequestFailed request) := by
  -- behind the first check no value is missing, and the report says so
  cases h with
  | variablesMissing hp hn => exact .variablesMissing hn
  | notBuilt hp hn hb =>
    unfold Payload.report
    rw [hn]
    exact .notBuilt
  | notSent hp hn hb ha =>
    unfold Payload.report
    rw [hn]
    exact .notSent
  | @unexpected p http reply e hp hn hb ha hu =>
    obtain ⟨status, expected, rfl⟩ := unexpected?_eq_some hu
    unfold Payload.report
    rw [hn]
    exact .unexpected
  | requestRulesFailed hp hn hb ha hu h₁ =>
    unfold Payload.report
    rw [hn]
    exact .notAssigned
  | stageRulesFailed hp hn hb ha hu h₁ h₂ =>
    unfold Payload.report
    rw [hn]
    exact .halfAssigned
  | done hp hn hb ha hu h₁ h₂ =>
    unfold Payload.report
    rw [hn]
    exact .intro

/-- A stage is the start of its request, the blocks of its credentials and that of the request. -/
theorem StageRun.keeps (hn : nested.KeepsGrammar c t (depth + 1)) {playbook : String} {index : Nat}
    {s : Stage} {outer : ScopeStack} {m : Moment} {o : Outcome ScopeStack}
    (h : StageRun c t nested playbook index s outer m o) :
    o.Keeps (StageDone c depth s) (StageFailed c depth index s) := by
  cases h with
  | noRequest hr =>
    rcases stageRequest_eq_error c hr with ⟨hs, rfl⟩ | ⟨ref, hs, hnone, rfl⟩
    · exact .noReference hs
    · exact .notFound hs hnone
  | noCredentials hr hc =>
    obtain ⟨hs, hr⟩ := stageRequest_eq_ok c hr
    exact .noCredentials hs hr (hc.keeps hn)
  | @ran ref request credentials trace m' o hr hc ho =>
    obtain ⟨hs, hr⟩ := stageRequest_eq_ok c hr
    have hd := ho.keeps
    obtain ⟨v, trace', m''⟩ := o
    -- the block of the request says whether the stage is done or failed
    cases v with
    | some v =>
      show StageDone c depth s ([.requestStarted ref] ++ trace ++ trace')
      exact .intro hs hr (hc.keeps hn) hd
    | none =>
      show StageFailed c depth index s ([.requestStarted ref] ++ trace ++ trace')
      exact .request hs hr (hc.keeps hn) hd

/-- Stages that succeeded, and a failed one behind them if any. -/
theorem StagesRun.keeps (hn : nested.KeepsGrammar c t (depth + 1)) {playbook : String}
    {stack assigned : ScopeStack} {index : Nat} {stages : List Stage} {m : Moment}
    {o : Outcome ScopeStack} (h : StagesRun c t nested playbook stack index assigned stages m o) :
    o.Keeps (StagesDone c depth stages) (StagesFailed c depth index stages) := by
  induction h with
  | done => exact .nil
  | failed hs => exact .here (hs.keeps hn)
  | @next _ _ _ _ _ _ _ _ _ _ v hs hr ih =>
    cases v with
    | some v =>
      show StagesDone c depth (_ :: _) (_ ++ _)
      exact .cons (hs.keeps hn) ih
    | none =>
      show StagesFailed c depth _ (_ :: _) (_ ++ _)
      exact .later (hs.keeps hn) ih

end Blocks

/-- With some levels left, playbooks keep to the grammar at the depth that
leaves so many. -/
theorem playbookWithin_keeps (c : Setup) (t : Transport) (levels depth : Nat) :
    (c.playbookWithin levels depth).Ensures t fun name stages _ o =>
      ∀ d, maxDepth - d = levels →
        o.Keeps (PlaybookDone c d name stages) (PlaybookFailed c d name stages) := by
  refine playbookWithin_induction c t
    (P := fun levels name stages _ o => ∀ d, maxDepth - d = levels →
      o.Keeps (PlaybookDone c d name stages) (PlaybookFailed c d name stages))
    ?_ ?_ levels depth
  · intro name stages m d hd
    exact .tooDeep (Nat.le_of_sub_eq_zero hd)
  · -- the depth of the run is only in its warnings; that of the grammar is `d`
    intro levels depth ih name stages stack m o h d hd
    have hlt : d < maxDepth := by omega
    have hn : Runner.KeepsGrammar (c.playbookWithin levels (depth + 1)) c t (d + 1) :=
      fun name stages stack m => ih name stages stack m (d + 1) (by omega)
    cases h with
    | failed hs =>
      show PlaybookFailed c d name stages ([.playbookStarted name] ++ _)
      exact .stages hlt (hs.keeps hn)
    | finished hs =>
      show PlaybookDone c d name stages ([.playbookStarted name] ++ _ ++ [.playbookFinished])
      exact .intro hlt (hs.keeps hn)

/-- At every depth playbooks keep the grammar of that depth. -/
theorem playbookAt_keeps (c : Setup) (t : Transport) (depth : Nat) :
    Runner.KeepsGrammar (c.playbookAt depth) c t depth :=
  fun name stages stack m =>
    playbookWithin_keeps c t (maxDepth - depth) depth name stages stack m depth rfl

/-- The playbooks of a run follow the grammar one after another, up to the first that fails. -/
theorem PlaybooksRun.runTrace {c : Setup} {t : Transport} {stack assigned v : ScopeStack}
    {ps : List Playbook} {m m' : Moment} {trace : List Event}
    (h : PlaybooksRun c t stack assigned ps m v trace m') : RunTrace c ps trace := by
  induction h with
  | done => exact .done
  | passedOver hp hr ih => exact .passedOver hp ih
  | halted hp hn => exact .failed hp ((playbookAt_keeps c t 0).failed hn)
  | next hp hn hr ih => exact .next hp ((playbookAt_keeps c t 0).done hn) ih

/-- **EVERY TRACE IS OF THE GRAMMAR**: whatever the bundle, the values, the
playbooks and the transport, a run reports finished playbooks followed by at
most one that failed. -/
theorem runTrace_runAll (c : Setup) (t : Transport) (values : RuntimeValues)
    (extra : ScopeStack) (ps : List Playbook) :
    RunTrace c ps ((c.runAll values extra ps).run t []).trace := by
  obtain ⟨m, h, -⟩ := playbooksRun_runAll c t values extra ps
  exact h.runTrace

end ApiPlaybook
