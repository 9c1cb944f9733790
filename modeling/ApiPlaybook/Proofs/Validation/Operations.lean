/-
  ApiPlaybook.Proofs.Validation.Operations
  ────────────────────────────────────────
  **OPERATIONS THAT THE API DOES NOT HAVE.**

  A validation against an API description looks up the operations that a bundle
  lists.  A run looks up the operation of whatever request it prepares, and that
  may also be a request of the bundle that stands on its own: it is free only if
  it names no operation.  These requests the validation passes over.

  So a run against an API that the validation was satisfied with fails on an
  operation that is unknown at most for such a request
  (`unknownOperation_runAll`), and that does happen
  (`not_validated_strayRequest`).
-/
import ApiPlaybook.CommandLine.Execution
import ApiPlaybook.Proofs.Validation.Soundness

namespace ApiPlaybook

/-! ## §1. Building a request. -/

/-- If the build fails, then not for an operation that is unknown. -/
def KnowsOperation {α : Type} (built : Except BuildError α) : Prop :=
  ∀ id, built ≠ .error (.unknownOperation id)

namespace KnowsOperation

variable {α β ε : Type}

theorem ok (v : α) : KnowsOperation (.ok v) := fun _ h => nomatch h

/-- An error other than that of an unknown operation is none of it. -/
theorem error {e : BuildError} (he : ∀ id, e ≠ .unknownOperation id) :
    KnowsOperation (.error e : Except BuildError α) := by
  intro id h
  exact he id (Except.error.inj h)

/-- A computation in two steps knows its operations when both do. -/
theorem bind {x : Except BuildError α} {f : α → Except BuildError β} (hx : KnowsOperation x)
    (hf : ∀ v, KnowsOperation (f v)) : KnowsOperation (x >>= f) := by
  cases x with
  | error e => exact .error fun id he => hx id (by rw [he])
  | ok v => exact hf v

/-- An error of another kind stays one. -/
theorem mapError (x : Except ε α) {f : ε → BuildError} (hf : ∀ e id, f e ≠ .unknownOperation id) :
    KnowsOperation (x.mapError f) := by
  cases x with
  | error e => exact .error (hf e)
  | ok v => exact .ok v

end KnowsOperation

/-- A text that is no URL is refused as such. -/
theorem knowsOperation_readUrl (s : String) : KnowsOperation (readUrl s) := .mapError _ nofun

namespace RequestDraft

/-- A body that cannot be written is refused as such. -/
theorem knowsOperation_bodyText (b : Body) : KnowsOperation (bodyText b) := by
  unfold bodyText
  dsimp only
  split
  · exact .ok _
  · split
    · split
      · exact .ok _
      · exact .error nofun
    · exact .ok _

/-- Finishing a request looks no operation up. -/
theorem knowsOperation_finish (d : RequestDraft) (method : String) (body : Option Body) :
    KnowsOperation (d.finish method body) := by
  unfold finish
  refine .bind ?_ fun _ => .ok _
  cases body with
  | none => exact .ok none
  | some b => exact .bind (knowsOperation_bodyText b) fun text => .ok (some text)

end RequestDraft

/-- The method of a free request is refused as such. -/
theorem knowsOperation_freeMethod (t : Template) : KnowsOperation (freeMethod t) := by
  unfold freeMethod
  dsimp only
  split
  · exact .error nofun
  · exact .ok _

/-- A request with a URL of its own needs no operation. -/
theorem knowsOperation_prepareFree (t : Template) : KnowsOperation (prepareFree t) := by
  unfold prepareFree
  split
  · exact .error fun _ he => by cases he
  · refine .bind (.mapError _ fun _ _ he => by cases he) fun text => ?_
    refine .bind (knowsOperation_readUrl text) fun url => ?_
    exact .bind (knowsOperation_freeMethod t) fun method =>
      RequestDraft.knowsOperation_finish _ method t.body

/-- The URL of an operation that was found refers to no other. -/
theorem ApiOperation.knowsOperation_url (o : ApiOperation) (server : String)
    (values : NameMap Json) : KnowsOperation (o.url server values) := by
  have hpath : KnowsOperation (do
      let path ← (Url.fillPath values true o.path).mapError .missingPathParameter
      readUrl (joinPath (o.base server) path)) :=
    .bind (.mapError _ nofun) fun path => knowsOperation_readUrl _
  unfold ApiOperation.url
  dsimp only
  split
  · exact .bind (.error nofun) fun _ => hpath
  · exact hpath

theorem ApiOperation.knowsOperation_prepare (o : ApiOperation) (server : String) (t : Template)
    (credentials : AuthResult) : KnowsOperation (o.prepare server t credentials).value := by
  unfold ApiOperation.prepare
  cases hu : o.url server t.parameters.path with
  | error e => exact .error fun id he => o.knowsOperation_url server _ id (by rw [hu, he])
  | ok url => exact RequestDraft.knowsOperation_finish _ o.method t.body

/-- The value of two steps with warnings does not depend on the warnings. -/
theorem Warned.value_bind {α β : Type} (w : Warned α) (f : α → Warned β) :
    (w >>= f).value = (f w.value).value :=
  rfl

/-- A request that names no operation, or one that the API has, does not fail for it. -/
theorem Setup.prepare_eq_unknownOperation {c : Setup} {request : Request} {template : Template}
    {credentials : AuthResult} {id : String}
    (h : (c.prepare request template credentials).value = .error (.unknownOperation id)) :
    request.operationId = some id ∧ (c.api.operation? id).value = none := by
  unfold Setup.prepare at h
  cases hid : request.operationId with
  | none =>
    rw [hid] at h
    exact absurd h (knowsOperation_prepareFree template id)
  | some id' =>
    rw [hid] at h
    unfold prepareOperation at h
    cases ho : (c.api.operation? id').value with
    | none =>
      rw [Warned.value_bind, ho] at h
      cases h
      exact ⟨rfl, ho⟩
    | some o =>
      rw [Warned.value_bind, ho] at h
      exact absurd h (o.knowsOperation_prepare c.server template credentials id)

/-! ## §2. Builds that fail in a run. -/

/-- Some request of the bundle fails to build in this way. -/
def Setup.FailsToBuild (c : Setup) (e : BuildError) : Prop :=
  ∃ ref request template credentials, c.bundle.request? ref = some request ∧
    (c.prepare request template credentials).value = .error e

/-- All builds that are reported to fail are builds of requests of the bundle. -/
def BuildFailures (c : Setup) (trace : List Event) : Prop :=
  ∀ e, .prepareFailed (.build e) ∈ trace → c.FailsToBuild e

/-- Whether an event tells no failed build. -/
def Event.isBuilt : Event → Bool
  | .prepareFailed (.build _) => false
  | _ => true

namespace BuildFailures

variable {c : Setup} {x y : List Event}

/-- Traces one after the other fail to be built as one of them does. -/
theorem append (hx : BuildFailures c x) (hy : BuildFailures c y) : BuildFailures c (x ++ y) := by
  intro e he
  exact (List.mem_append.mp he).elim (hx e) (hy e)

/-- A trace without failures of this kind. -/
theorem of_isBuilt (h : ∀ e ∈ x, e.isBuilt = true) : BuildFailures c x := by
  intro e he
  cases h _ he

theorem nil : BuildFailures c [] := .of_isBuilt (List.forall_mem_nil _)

/-- Events of success around a trace change nothing. -/
theorem between (hx : ∀ e ∈ x, e.isBuilt = true) (hy : BuildFailures c y) {z : List Event}
    (hz : ∀ e ∈ z, e.isBuilt = true) : BuildFailures c (x ++ y ++ z) :=
  .append (.append (.of_isBuilt hx) hy) (.of_isBuilt hz)

end BuildFailures

/-- The playbooks that a runner runs build only requests of the bundle. -/
def Runner.BuildsOf (nested : Runner) (c : Setup) (t : Transport) : Prop :=
  nested.Ensures t fun _ _ _ o => BuildFailures c o.trace

section Rules

variable {c : Setup} {t : Transport} {nested : Runner}

/-- An acquisition fails to build a request as the playbook it runs does. -/
theorem AcquisitionRun.buildFailures (hn : nested.BuildsOf c t) {auth : String}
    {method : CredentialMethod} {stack scopes : ScopeStack} {m m' : Moment} {trace : List Event}
    (h : AcquisitionRun t nested auth method stack m scopes trace m') : BuildFailures c trace := by
  cases h with
  | direct hs => exact .nil
  | staged hs ho => exact hn.of_outcome ho

/-- Resolving a credential builds requests in the acquisition only. -/
theorem CredentialRun.buildFailures (hn : nested.BuildsOf c t) {auth : String}
    {stack : ScopeStack} {m : Moment} {o : Outcome ResolvedCredential}
    (h : CredentialRun c t nested stack auth m o) : BuildFailures c o.trace := by
  cases h with
  | unknown hm => exact .of_isBuilt (by simp [Event.isBuilt])
  | kept hm hk => exact .of_isBuilt (by simp [Event.isBuilt])
  | notAcquired hm hk hs ho =>
    exact .between (by simp [Event.isBuilt]) (hn.of_outcome ho) (by simp [Event.isBuilt])
  | incomplete hm hk ha hf hmissing =>
    exact .between (by simp [Event.isBuilt]) (ha.buildFailures hn) (by simp [Event.isBuilt])
  | obtained hm hk ha hf hmissing =>
    exact .between (by simp [Event.isBuilt]) (ha.buildFailures hn) (by simp [Event.isBuilt])

theorem CredentialsRun.buildFailures (hn : nested.BuildsOf c t) {auths : List String}
    {stack : ScopeStack} {result : AuthResult} {m : Moment} {o : Outcome AuthResult}
    (h : CredentialsRun c t nested stack auths result m o) : BuildFailures c o.trace := by
  induction h with
  | done => exact .nil
  | failed h => exact h.buildFailures hn
  | next h hr ih => exact .append (h.buildFailures hn) ih

/-- The request of a stage is one of the bundle, and its failure is that of preparing it. -/
theorem RequestRun.buildFailures {playbook : String} {index : Nat} {s : Stage}
    {outer : ScopeStack} {ref : RequestRef} {request : Request}
    (hr : c.bundle.request? ref = some request) {credentials : AuthResult} {m : Moment}
    {o : Outcome ScopeStack}
    (h : RequestRun c t playbook index s outer request credentials m o) :
    BuildFailures c o.trace := by
  cases h with
  | @notBuilt p e hp hn hb =>
    intro e' he
    simp only [Payload.report, List.mem_cons, List.not_mem_nil, or_false, reduceCtorEq,
      false_or] at he
    cases he
    exact ⟨ref, request, p.template, credentials, hr, hb⟩
  | _ => exact .of_isBuilt (by simp [Payload.report, Event.isBuilt])

/-- A stage builds its own request and those of its credentials. -/
theorem StageRun.buildFailures (hn : nested.BuildsOf c t) {playbook : String} {index : Nat}
    {s : Stage} {outer : ScopeStack} {m : Moment} {o : Outcome ScopeStack}
    (h : StageRun c t nested playbook index s outer m o) : BuildFailures c o.trace := by
  cases h with
  | noRequest hr => exact .of_isBuilt (by simp [Event.isBuilt])
  | noCredentials hr hc =>
    exact .between (by simp [Event.isBuilt]) (hc.buildFailures hn) (by simp [Event.isBuilt])
  | @ran ref request credentials trace m' o hr hc ho =>
    refine .append (.append (x := [.requestStarted ref]) ?_ (hc.buildFailures hn)) ?_
    · exact .of_isBuilt (by simp [Event.isBuilt])
    · exact ho.buildFailures (stageRequest_eq_ok c hr).2

theorem StagesRun.buildFailures (hn : nested.BuildsOf c t) {playbook : String}
    {stack assigned : ScopeStack} {index : Nat} {stages : List Stage} {m : Moment}
    {o : Outcome ScopeStack}
    (h : StagesRun c t nested playbook stack index assigned stages m o) :
    BuildFailures c o.trace := by
  induction h with
  | done => exact .nil
  | failed h => exact h.buildFailures hn
  | next h hr ih => exact .append (h.buildFailures hn) ih

theorem PlaybookRun.buildFailures (hn : nested.BuildsOf c t) {name : String}
    {stages : List Stage} {stack : ScopeStack} {m : Moment} {o : Outcome ScopeStack}
    (h : PlaybookRun c t nested name stages stack m o) : BuildFailures c o.trace := by
  cases h with
  | failed hs => exact .append (.of_isBuilt (by simp [Event.isBuilt])) (hs.buildFailures hn)
  | finished hs =>
    exact .between (by simp [Event.isBuilt]) (hs.buildFailures hn) (by simp [Event.isBuilt])

end Rules

section Playbooks

variable (c : Setup) (t : Transport)

/-- By induction on the levels that are left, a playbook within them at any depth. -/
theorem playbookWithin_buildsOf (levels depth : Nat) :
    (c.playbookWithin levels depth).BuildsOf c t := by
  refine playbookWithin_induction c t (P := fun _ _ _ _ o => BuildFailures c o.trace)
    ?_ ?_ levels depth
  · intro name stages m
    exact .of_isBuilt (by simp [Outcome.tooDeep, Event.isBuilt])
  · intro levels depth ih name stages stack m o h
    exact h.buildFailures ih

theorem PlaybooksRun.buildFailures {c : Setup} {t : Transport} {stack assigned v : ScopeStack}
    {ps : List Playbook} {m m' : Moment} {trace : List Event}
    (h : PlaybooksRun c t stack assigned ps m v trace m') : BuildFailures c trace := by
  have playbook := playbookWithin_buildsOf c t maxDepth 0
  induction h with
  | done => exact .nil
  | passedOver hp hr ih => exact ih
  | halted hp hn => exact playbook.of_outcome hn
  | next hp hn hr ih => exact .append (playbook.of_outcome hn) ih

end Playbooks

/-! ## §3. What the validation looks up. -/

/-- The API has each operation that is listed under a name. -/
theorem Bundle.operation?_of_absentOperations {b : Bundle} {api : ApiDocument}
    (h : b.absentOperations api = []) {name id : String} {o : Operation}
    (ho : b.operations.get? name = some o) (hid : o.request.operationId = some id) :
    (api.operation? id).value ≠ none := by
  intro hnone
  have hentry := List.filterMap_eq_nil_iff.mp h (name, o) (NameMap.mem_of_get? ho)
  simp [hid, hnone] at hentry

/-- **AN UNKNOWN OPERATION IS NEVER ONE THAT WAS LOOKED UP**: where the validation of a
bundle against an API finds nothing, a run that fails on an operation unknown to that
API, at any depth, made a request of the bundle that stands on its own and names it. -/
theorem unknownOperation_runAll (c : Setup) (t : Transport) (values : RuntimeValues)
    (extra : ScopeStack) (ps : List Playbook) (id : String)
    (hv : (Findings.ofBundle c.bundle (some c.api)).areNone = true)
    (h : .prepareFailed (.build (.unknownOperation id)) ∈
      ((c.runAll values extra ps).run t []).trace) :
    ∃ name request, c.bundle.requests.get? name = some request ∧
      request.operationId = some id ∧ (c.api.operation? id).value = none := by
  obtain ⟨m, hrun, -⟩ := playbooksRun_runAll c t values extra ps
  obtain ⟨⟨kind, name⟩, request, template, credentials, hr, hb⟩ := hrun.buildFailures _ h
  obtain ⟨hid, hnone⟩ := Setup.prepare_eq_unknownOperation hb
  cases kind with
  | request => exact ⟨name, request, hr, hid, hnone⟩
  | operation =>
    -- that one was looked up
    obtain ⟨o, ho, rfl⟩ := Option.map_eq_some_iff.mp hr
    have habsent : c.bundle.absentOperations c.api = [] := by
      simpa [Findings.areNone, Findings.ofBundle] using (Bool.and_eq_true_iff.mp hv).2
    exact absurd hnone (Bundle.operation?_of_absentOperations habsent ho hid)

/-- A request that stands on its own and names an operation, before an API without any. -/
def straySetup : Setup :=
  let login : Request := ⟨some "login", .empty, [], .ofStatus 200, .empty,
    ⟨none, none, ⟨.empty, .empty, .empty, .empty⟩, none⟩⟩
  ⟨⟨.empty, .ofList [("login", login)], [.ofRef ⟨.request, "login"⟩], [], [], .empty, none⟩,
    ⟨.ofMembers [("paths", .ofMembers [])]⟩, ""⟩

/-- A playbook of what is done before all. -/
def strayPlaybook : Playbook := ⟨"Global Before", straySetup.bundle.before⟩

/-- The validation finds nothing. -/
theorem findings_straySetup :
    (Findings.ofBundle straySetup.bundle (some straySetup.api)).areNone = true := by
  decide +kernel

/-- The request is made, and fails. -/
theorem mem_trace_straySetup :
    .prepareFailed (.build (.unknownOperation "login")) ∈
      ((straySetup.runAll ⟨.empty, .empty⟩ [] [strayPlaybook]).run .mock []).trace :=
  List.mem_of_getElem? (i := 3) rfl

theorem unknownOperation_runAll_stray :
    (Findings.ofBundle straySetup.bundle (some straySetup.api)).areNone = true ∧
      .prepareFailed (.build (.unknownOperation "login")) ∈
        ((straySetup.runAll ⟨.empty, .empty⟩ [] [strayPlaybook]).run .mock []).trace ∧
      ∃ name request, straySetup.bundle.requests.get? name = some request ∧
        request.operationId = some "login" ∧ (straySetup.api.operation? "login").value = none :=
  ⟨findings_straySetup, mem_trace_straySetup, unknownOperation_runAll straySetup .mock
    ⟨.empty, .empty⟩ [] [strayPlaybook] "login" findings_straySetup mem_trace_straySetup⟩

/-- **NOT ALL OPERATIONS ARE LOOKED UP**: a bundle in which a validation finds nothing may
fail on an operation that the API does not have. -/
theorem not_validated_strayRequest :
    ¬ ∀ (c : Setup) (t : Transport) (values : RuntimeValues) (extra : ScopeStack)
      (ps : List Playbook), (Findings.ofBundle c.bundle (some c.api)).areNone = true →
      (∀ p ∈ ps, c.bundle.Supplies p) →
      ∀ id, .prepareFailed (.build (.unknownOperation id)) ∉
        ((c.runAll values extra ps).run t []).trace := by
  intro h
  have hsupplies : ∀ p ∈ [strayPlaybook], straySetup.bundle.Supplies p := by
    intro p hp s hs
    cases List.mem_singleton.mp hp
    exact .inl (.before hs)
  exact h straySetup .mock ⟨.empty, .empty⟩ [] [strayPlaybook] findings_straySetup hsupplies
    "login" mem_trace_straySetup

end ApiPlaybook
