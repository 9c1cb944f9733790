/-
  ApiPlaybook.Proofs.Validation.Soundness
  ───────────────────────────────────────
  **IN A VALID BUNDLE EVERY REFERENCE LEADS SOMEWHERE.**

  The violations of a bundle are found by walking its lists; a run walks it from
  a stage to a request, from there to credentials and from these to stages again.
  The two ways meet in what each check promises when it finds nothing:

      a stage of any list leads to a request (`leads_of_stagesViolations`),
      a reference to a credential has a method (`method_of_authFault?`),
      and so do the stages of that method lead to requests.

  So no run of such a bundle comes upon a reference that leads nowhere, at
  whatever depth (`resolved_runAll`).
-/
import ApiPlaybook.Bundle.Validation
import ApiPlaybook.Proofs.Run.Rules

namespace ApiPlaybook

/-! ## §1. What a check promises. -/

/-- The stage refers to a request of the bundle. -/
def Stage.Leads (b : Bundle) (s : Stage) : Prop :=
  ∃ ref request, s.ref = some ref ∧ b.request? ref = some request

section Checks

variable {b : Bundle} {path : BundlePath}

/-- Every element of a list has an index. -/
theorem exists_mem_zipIdx {α : Type} {x : α} {xs : List α} (h : x ∈ xs) :
    ∃ i, (x, i) ∈ xs.zipIdx := by
  obtain ⟨i, hi⟩ := List.mem_iff_getElem?.mp h
  exact ⟨i, List.mk_mem_zipIdx_iff_getElem?.mpr hi⟩

/-- A stage whose references have no fault leads to a request of the bundle. -/
theorem Stage.leads_of_refFault? {s : Stage} (h : s.refFault? b = none) : s.Leads b := by
  unfold Stage.refFault? at h
  split at h
  · cases h
  · next ref hs =>
    split at h
    · next hr =>
      obtain ⟨request, hr⟩ := Option.isSome_iff_exists.mp hr
      exact ⟨ref, request, hs, hr⟩
    · cases h

theorem Stage.leads_of_violations {s : Stage} (h : s.violations b path = []) : s.Leads b := by
  simp only [Stage.violations, List.append_eq_nil_iff, Option.toList_eq_nil_iff,
    Option.map_eq_none_iff] at h
  exact Stage.leads_of_refFault? h.1.1

theorem leads_of_stagesViolations {stages : List Stage}
    (h : stagesViolations b path stages = []) : ∀ s ∈ stages, s.Leads b := by
  intro s hs
  obtain ⟨i, hi⟩ := exists_mem_zipIdx hs
  exact Stage.leads_of_violations (List.flatMap_eq_nil_iff.mp h _ hi)

/-- A list of references without violations has no faulty reference. -/
theorem authFault?_of_authViolations {refs : List String}
    (h : authViolations b path refs = []) : ∀ auth ∈ refs, authFault? b auth = none := by
  intro auth ha
  obtain ⟨i, hi⟩ := exists_mem_zipIdx ha
  simpa using List.filterMap_eq_nil_iff.mp h _ hi

theorem Request.authFault?_of_violations {r : Request} (h : r.violations b path = []) :
    ∀ auth ∈ r.auth, authFault? b auth = none := by
  simp only [Request.violations, List.append_eq_nil_iff] at h
  exact authFault?_of_authViolations h.1.2

/-- What the check of an operation promises. -/
structure Operation.Sound (b : Bundle) (o : Operation) : Prop where
  auth : ∀ auth ∈ o.request.auth, authFault? b auth = none
  before : ∀ s ∈ o.before, s.Leads b
  after : ∀ s ∈ o.after, s.Leads b
  scenarios : ∀ name scenario, o.scenarios.get? name = some scenario →
    ∀ s ∈ scenario.stages, s.Leads b

theorem Operation.sound_of_violations {o : Operation} (h : o.violations b path = []) :
    o.Sound b := by
  simp only [Operation.violations, List.append_eq_nil_iff, List.flatMap_eq_nil_iff] at h
  obtain ⟨⟨⟨hrequest, hbefore⟩, hafter⟩, hscenarios⟩ := h
  refine ⟨Request.authFault?_of_violations hrequest, leads_of_stagesViolations hbefore,
    leads_of_stagesViolations hafter, ?_⟩
  intro name scenario hn
  exact leads_of_stagesViolations (hscenarios _ (NameMap.mem_of_get? hn))

/-- What the check of a credential promises. -/
structure Credential.Sound (b : Bundle) (c : Credential) : Prop where
  default : c.methods.contains c.defaultMethod = true
  stages : ∀ name method stages, c.methods.get? name = some method →
    method.stages = some stages → ∀ s ∈ stages, s.Leads b

theorem Credential.sound_of_violations {c : Credential} (h : c.violations b path = []) :
    c.Sound b := by
  simp only [Credential.violations, List.append_eq_nil_iff, List.flatMap_eq_nil_iff] at h
  obtain ⟨hdefault, hmethods⟩ := h
  refine ⟨by simpa using hdefault, ?_⟩
  intro name method stages hm hs
  have hstages := hmethods (name, method) (NameMap.mem_of_get? hm)
  rw [hs] at hstages
  exact leads_of_stagesViolations hstages

end Checks

/-! ## §2. What validity promises. -/

namespace Bundle

/-- What the check of a bundle promises of its parts, by the names by which a run
finds them. -/
structure Sound (b : Bundle) : Prop where
  operations : ∀ id o, b.operations.get? id = some o → o.Sound b
  requests : ∀ id r, b.requests.get? id = some r → ∀ auth ∈ r.auth, authFault? b auth = none
  before : ∀ s ∈ b.before, s.Leads b
  after : ∀ s ∈ b.after, s.Leads b
  /-- Whichever group a credential is found in. -/
  credentials : ∀ name c, b.credential? name = some c → c.Sound b

theorem IsValid.sound {b : Bundle} (h : b.IsValid) : b.Sound := by
  simp only [IsValid, violations, List.append_eq_nil_iff, List.flatMap_eq_nil_iff] at h
  obtain ⟨⟨⟨⟨⟨⟨hoperations, hrequests⟩, hbefore⟩, hafter⟩, hgroups⟩, -⟩, -⟩ := h
  refine ⟨?_, ?_, leads_of_stagesViolations hbefore, leads_of_stagesViolations hafter, ?_⟩
  · intro id o ho
    have hviolations := hoperations (id, o) (NameMap.mem_of_get? ho)
    exact Operation.sound_of_violations hviolations
  · intro id r hr
    have hviolations := hrequests (id, r) (NameMap.mem_of_get? hr)
    exact Request.authFault?_of_violations hviolations
  · intro name c hc
    obtain ⟨group, hgroup, hc⟩ := List.exists_of_findSome?_eq_some hc
    obtain ⟨i, hi⟩ := exists_mem_zipIdx hgroup
    have hviolations := hgroups (group, i) hi (name, c) (NameMap.mem_of_get? hc)
    exact Credential.sound_of_violations hviolations

/-- The stages that a bundle lists: before and after all, before and after an
operation, and in the scenarios of one. -/
inductive Lists (b : Bundle) : Stage → Prop where
  | before {s : Stage} (hs : s ∈ b.before) : Lists b s
  | after {s : Stage} (hs : s ∈ b.after) : Lists b s
  | beforeOperation {id : String} {o : Operation} {s : Stage} (ho : b.operations.get? id = some o)
      (hs : s ∈ o.before) : Lists b s
  | afterOperation {id : String} {o : Operation} {s : Stage} (ho : b.operations.get? id = some o)
      (hs : s ∈ o.after) : Lists b s
  | scenario {id name : String} {o : Operation} {scenario : Scenario} {s : Stage}
      (ho : b.operations.get? id = some o) (hn : o.scenarios.get? name = some scenario)
      (hs : s ∈ scenario.stages) : Lists b s

/-- Each stage of the playbook is listed in the bundle or only makes a request that
the bundle has. -/
def Supplies (b : Bundle) (p : Playbook) : Prop :=
  ∀ s ∈ p.stages, b.Lists s ∨ ∃ ref, s = .ofRef ref ∧ (b.request? ref).isSome

namespace Sound

variable {b : Bundle}

/-- The stages that a sound bundle lists lead to requests. -/
theorem leads (h : b.Sound) {s : Stage} (hs : b.Lists s) : s.Leads b := by
  cases hs with
  | before hs => exact h.before _ hs
  | after hs => exact h.after _ hs
  | beforeOperation ho hs => exact (h.operations _ _ ho).before _ hs
  | afterOperation ho hs => exact (h.operations _ _ ho).after _ hs
  | scenario ho hn hs => exact (h.operations _ _ ho).scenarios _ _ hn _ hs

theorem leads_of_supplies (h : b.Sound) {p : Playbook} (hp : b.Supplies p) :
    ∀ s ∈ p.stages, s.Leads b := by
  intro s hs
  rcases hp s hs with hs | ⟨ref, rfl, hr⟩
  · exact h.leads hs
  · obtain ⟨request, hr⟩ := Option.isSome_iff_exists.mp hr
    exact ⟨ref, request, rfl, hr⟩

/-- The references of whatever request a stage makes. -/
theorem auth (h : b.Sound) {ref : RequestRef} {request : Request}
    (hr : b.request? ref = some request) :
    ∀ auth ∈ request.references, authFault? b auth = none := by
  have hauth : ∀ auth ∈ request.auth, authFault? b auth = none := by
    unfold Bundle.request? at hr
    split at hr
    · obtain ⟨o, ho, rfl⟩ := Option.map_eq_some_iff.mp hr
      exact (h.operations _ o ho).auth
    · exact h.requests _ request hr
  intro auth ha
  unfold Request.references at ha
  split at ha
  · cases ha
  · exact hauth auth ha

end Sound

end Bundle

/-- A reference that was checked means a method, and the stages of that method lead
to requests. -/
theorem Setup.method_of_authFault? {c : Setup} (h : c.bundle.Sound) {auth : String}
    (ha : authFault? c.bundle auth = none) :
    ∃ key credential method, c.method auth = .ok (key, credential, method) ∧
      ∀ stages, method.stages = some stages → ∀ s ∈ stages, s.Leads c.bundle := by
  unfold authFault? at ha
  dsimp only at ha
  split at ha
  · cases ha
  · next credential hc =>
    have hsound := h.credentials _ credential hc
    -- the reference names a method that was checked, or the default is taken
    have hmethod : credential.methods.contains
        ((AuthRef.ofText auth).method.getD credential.defaultMethod) = true := by
      cases hm : (AuthRef.ofText auth).method with
      | none => exact hsound.default
      | some name => simpa [hm] using ha
    obtain ⟨method, hm⟩ := Option.isSome_iff_exists.mp hmethod
    have hfound : c.method auth = .ok (⟨(AuthRef.ofText auth).credential,
        (AuthRef.ofText auth).method.getD credential.defaultMethod⟩, credential, method) := by
      unfold Setup.method
      simp only [hc, hm]
    exact ⟨_, credential, method, hfound, fun stages hs => hsound.stages _ _ _ hm hs⟩

/-! ## §3. References are followed to the end. -/

/-- Errors that a reference leads nowhere. -/
inductive RunError.Dangles : RunError → Prop where
  | noReference (stage : Nat) : Dangles (.noReference stage)
  | requestNotFound (ref : RequestRef) : Dangles (.requestNotFound ref)
  | unknownCredential (name : String) : Dangles (.unknownCredential name)
  | unknownMethod (key : CredentialKey) : Dangles (.unknownMethod key)

namespace Event

/-- The error that an event tells. -/
def error? : Event → Option RunError
  | .playbookAborted error | .authAborted error | .prepareFailed error
  | .processingFailed error => some error
  | _ => none

/-- The event is no failure of a reference, and where it aborts a playbook, that is
for the depth of it. -/
structure Resolves (e : Event) : Prop where
  follows : ∀ error, e.error? = some error → ¬ error.Dangles
  aborts : ∀ error, e = .playbookAborted error → error = .tooDeep

/-- An event without an error tells of no failed reference. -/
theorem Resolves.of_silent {e : Event} (h : e.error? = none) : e.Resolves := by
  refine ⟨?_, ?_⟩
  · intro error he
    rw [h] at he
    cases he
  · rintro error rfl
    cases h

/-- Failures with another cause. -/
theorem Resolves.of_failure {e : Event} {error : RunError} (he : e.error? = some error)
    (hd : ¬ error.Dangles) (ha : ∀ error, e ≠ .playbookAborted error) : e.Resolves := by
  refine ⟨?_, fun error' h => absurd h (ha error')⟩
  intro error' he'
  rw [he] at he'
  cases he'
  exact hd

theorem Resolves.tooDeep : Resolves (.playbookAborted .tooDeep) := by
  refine ⟨?_, ?_⟩
  · rintro error ⟨⟩ ⟨⟩
  · rintro error ⟨⟩
    rfl

end Event

/-- Every event of the trace resolves. -/
def Resolved (trace : List Event) : Prop := ∀ e ∈ trace, e.Resolves

namespace Resolved

variable {x y : List Event}

theorem nil : Resolved [] := List.forall_mem_nil _

theorem append (hx : Resolved x) (hy : Resolved y) : Resolved (x ++ y) :=
  List.forall_mem_append.mpr ⟨hx, hy⟩

theorem of_silent (h : ∀ e ∈ x, e.error? = none) : Resolved x := fun e he => .of_silent (h e he)

/-- An event that is resolved may end a trace without errors. -/
theorem ending (h : ∀ e ∈ x, e.error? = none) {e : Event} (he : e.Resolves) :
    Resolved (x ++ [e]) :=
  .append (.of_silent h) (List.forall_mem_singleton.mpr he)

end Resolved

/-- The playbooks that a runner runs follow all references if their stages lead to
requests. -/
def Runner.Resolves (nested : Runner) (b : Bundle) (t : Transport) : Prop :=
  nested.Ensures t fun _ stages _ o => (∀ s ∈ stages, s.Leads b) → Resolved o.trace

section Rules

variable {c : Setup} {t : Transport} {nested : Runner}

/-- An acquisition is resolved when the stages of its method lead to requests. -/
theorem AcquisitionRun.resolved (hn : nested.Resolves c.bundle t) {auth : String}
    {method : CredentialMethod} {stack scopes : ScopeStack} {m m' : Moment} {trace : List Event}
    (hl : ∀ stages, method.stages = some stages → ∀ s ∈ stages, s.Leads c.bundle)
    (h : AcquisitionRun t nested auth method stack m scopes trace m') : Resolved trace := by
  cases h with
  | direct hs => exact .nil
  | staged hs ho => exact hn.of_outcome ho (hl _ hs)

/-- A credential whose reference has no fault is found, and its method leads to requests. -/
theorem CredentialRun.resolved (hn : nested.Resolves c.bundle t) (hb : c.bundle.Sound)
    {auth : String} (ha : authFault? c.bundle auth = none) {stack : ScopeStack} {m : Moment}
    {o : Outcome ResolvedCredential} (h : CredentialRun c t nested stack auth m o) :
    Resolved o.trace := by
  obtain ⟨key, credential, method, hfound, hl⟩ := Setup.method_of_authFault? hb ha
  have started : Resolved [.authStarted auth] := .of_silent (by simp [Event.error?])
  cases h with
  -- the method was found, so this error cannot come
  | unknown hm =>
    rw [hfound] at hm
    cases hm
  | kept hm hk => exact .of_silent (by simp [Event.error?])
  | notAcquired hm hk hs ho =>
    rw [hfound] at hm
    cases hm
    have hacquired : Resolved _ := hn.of_outcome ho (hl _ hs)
    exact .append (.append started hacquired)
      (.ending (x := []) (by simp) (.of_failure rfl nofun nofun))
  | @incomplete key' credential' method' scopes trace m' filled hm hk hq hf hmissing =>
    rw [hfound] at hm
    cases hm
    refine .append (.append started (hq.resolved hn hl)) ?_
    exact .ending (x := [.credentialSubstituted auth filled.value scopes filled.found
      filled.missing]) (by simp [Event.error?]) (.of_failure rfl nofun nofun)
  | obtained hm hk hq hf hmissing =>
    rw [hfound] at hm
    cases hm
    exact .append (.append started (hq.resolved hn hl)) (.of_silent (by simp [Event.error?]))

theorem CredentialsRun.resolved (hn : nested.Resolves c.bundle t) (hb : c.bundle.Sound)
    {auths : List String} {stack : ScopeStack} {result : AuthResult} {m : Moment}
    {o : Outcome AuthResult} (ha : ∀ auth ∈ auths, authFault? c.bundle auth = none)
    (h : CredentialsRun c t nested stack auths result m o) : Resolved o.trace := by
  induction h with
  | done => exact .nil
  | failed h => exact h.resolved hn hb (List.forall_mem_cons.mp ha).1
  | next h hr ih =>
    obtain ⟨hfirst, hrest⟩ := List.forall_mem_cons.mp ha
    exact .append (h.resolved hn hb hfirst) (ih hrest)

/-- Behind the credentials a stage follows no reference any more. -/
theorem RequestRun.resolved {playbook : String} {index : Nat} {s : Stage} {outer : ScopeStack}
    {request : Request} {credentials : AuthResult} {m : Moment} {o : Outcome ScopeStack}
    (h : RequestRun c t playbook index s outer request credentials m o) : Resolved o.trace := by
  -- none of the errors of a request is one of a reference
  cases h with
  | @variablesMissing p hp hmissing =>
    exact .ending (x := [p.report]) (by simp [Payload.report, Event.error?])
      (.of_failure rfl nofun nofun)
  | @notBuilt p e hp hmissing hb =>
    exact .ending (x := [p.report]) (by simp [Payload.report, Event.error?])
      (.of_failure rfl nofun nofun)
  | notSent hp hmissing hb ha => exact .of_silent (by simp [Payload.report, Event.error?])
  | @unexpected p http reply e hp hmissing hb ha hu =>
    obtain ⟨status, expected, rfl⟩ := unexpected?_eq_some hu
    exact .ending (x := [p.report, .requestPrepared http request.operationId,
      .responseReceived reply]) (by simp [Payload.report, Event.error?])
      (.of_failure rfl nofun nofun)
  | @requestRulesFailed p http reply e hp hmissing hb ha hu h₁ =>
    exact .ending (x := [p.report, .requestPrepared http request.operationId,
      .responseReceived reply]) (by simp [Payload.report, Event.error?])
      (.of_failure rfl nofun nofun)
  | @stageRulesFailed p http reply first e hp hmissing hb ha hu h₁ h₂ =>
    exact .ending (x := [p.report, .requestPrepared http request.operationId,
      .responseReceived reply, .variablesAssigned first])
      (by simp [Payload.report, Event.error?]) (.of_failure rfl nofun nofun)
  | done hp hmissing hb ha hu h₁ h₂ => exact .of_silent (by simp [Payload.report, Event.error?])

/-- A stage that leads to a request is resolved, its credentials included. -/
theorem StageRun.resolved (hn : nested.Resolves c.bundle t) (hb : c.bundle.Sound)
    {playbook : String} {index : Nat} {s : Stage} (hs : s.Leads c.bundle) {outer : ScopeStack}
    {m : Moment} {o : Outcome ScopeStack} (h : StageRun c t nested playbook index s outer m o) :
    Resolved o.trace := by
  have started (ref : RequestRef) : Resolved [.requestStarted ref] :=
    .of_silent (by simp [Event.error?])
  cases h with
  | noRequest hr =>
    -- the stage leads to a request, so neither error can come
    obtain ⟨ref, request, href, hrequest⟩ := hs
    rcases stageRequest_eq_error c hr with ⟨hnone, -⟩ | ⟨ref', href', hnone, -⟩
    · rw [href] at hnone
      cases hnone
    · rw [href] at href'
      cases href'
      rw [hrequest] at hnone
      cases hnone
  | noCredentials hr hc =>
    have ha := hb.auth (stageRequest_eq_ok c hr).2
    exact .append (.append (started _) (hc.resolved hn hb ha))
      (.ending (x := []) (by simp) (.of_failure rfl nofun nofun))
  | ran hr hc ho =>
    have ha := hb.auth (stageRequest_eq_ok c hr).2
    exact .append (.append (started _) (hc.resolved hn hb ha)) ho.resolved

theorem StagesRun.resolved (hn : nested.Resolves c.bundle t) (hb : c.bundle.Sound)
    {playbook : String} {stack assigned : ScopeStack} {index : Nat} {stages : List Stage}
    {m : Moment} {o : Outcome ScopeStack} (hl : ∀ s ∈ stages, s.Leads c.bundle)
    (h : StagesRun c t nested playbook stack index assigned stages m o) : Resolved o.trace := by
  induction h with
  | done => exact .nil
  | failed h => exact h.resolved hn hb (List.forall_mem_cons.mp hl).1
  | next h hr ih =>
    obtain ⟨hfirst, hrest⟩ := List.forall_mem_cons.mp hl
    exact .append (h.resolved hn hb hfirst) (ih hrest)

theorem PlaybookRun.resolved (hn : nested.Resolves c.bundle t) (hb : c.bundle.Sound)
    {name : String} {stages : List Stage} {stack : ScopeStack} {m : Moment}
    {o : Outcome ScopeStack} (hl : ∀ s ∈ stages, s.Leads c.bundle)
    (h : PlaybookRun c t nested name stages stack m o) : Resolved o.trace := by
  have started : Resolved [.playbookStarted name] := .of_silent (by simp [Event.error?])
  cases h with
  | failed hs => exact .append started (hs.resolved hn hb hl)
  | finished hs =>
    exact .append (.append started (hs.resolved hn hb hl)) (.of_silent (by simp [Event.error?]))

end Rules

section Playbooks

variable (c : Setup) (t : Transport)

/-- By induction on the levels that are left, a playbook within them at any depth. -/
theorem playbookWithin_resolves (hb : c.bundle.Sound) (levels depth : Nat) :
    (c.playbookWithin levels depth).Resolves c.bundle t := by
  refine playbookWithin_induction c t
    (P := fun _ _ stages _ o => (∀ s ∈ stages, s.Leads c.bundle) → Resolved o.trace)
    ?_ ?_ levels depth
  · intro name stages m _
    exact .ending (x := [.playbookStarted name]) (by simp [Event.error?]) .tooDeep
  · intro levels depth ih name stages stack m o h hl
    exact h.resolved ih hb hl

theorem PlaybooksRun.resolved {c : Setup} {t : Transport} (hb : c.bundle.Sound)
    {stack assigned v : ScopeStack} {ps : List Playbook} {m m' : Moment} {trace : List Event}
    (hl : ∀ p ∈ ps, ∀ s ∈ p.stages, s.Leads c.bundle)
    (h : PlaybooksRun c t stack assigned ps m v trace m') : Resolved trace := by
  have playbook := playbookWithin_resolves c t hb maxDepth 0
  induction h with
  | done => exact .nil
  | passedOver hp hr ih => exact ih (List.forall_mem_cons.mp hl).2
  | halted hp hn => exact playbook.of_outcome hn (List.forall_mem_cons.mp hl).1
  | next hp hn hr ih =>
    obtain ⟨hfirst, hrest⟩ := List.forall_mem_cons.mp hl
    have hplaybook : Resolved _ := playbook.of_outcome hn hfirst
    exact .append hplaybook (ih hrest)

end Playbooks

/-- **A VALID BUNDLE HAS NO REFERENCE THAT FAILS**: playbooks whose stages it supplies
report no stage without a request and no credential without a method, at no depth,
and a playbook is aborted only where it is too deep. -/
theorem resolved_runAll (c : Setup) (t : Transport) (values : RuntimeValues) (extra : ScopeStack)
    (ps : List Playbook) (hb : c.bundle.IsValid) (hp : ∀ p ∈ ps, c.bundle.Supplies p) :
    Resolved ((c.runAll values extra ps).run t []).trace := by
  obtain ⟨m, hrun, -⟩ := playbooksRun_runAll c t values extra ps
  exact hrun.resolved hb.sound fun p hmem => hb.sound.leads_of_supplies (hp p hmem)

/-- An operation that needs a credential, which a request acquires that is also made
before all. -/
def sessionBundle : Bundle :=
  let blank : Template := ⟨none, none, ⟨.empty, .empty, .empty, .empty⟩, none⟩
  let login : Request :=
    ⟨none, .empty, [], .ofStatus 200, .empty, { blank with url := some "https://id.test/" }⟩
  let read : Request := ⟨some "read", .empty, ["session"], .ofStatus 200, .empty, blank⟩
  let session : Credential := ⟨some .bearer, none, none, "login",
    .ofList [("login", ⟨"{{token}}", some [.ofRef ⟨.request, "login"⟩]⟩)]⟩
  ⟨.ofList [("read", ⟨read, [], [], .empty⟩)], .ofList [("login", login)],
    [.ofRef ⟨.request, "login"⟩], [], [.ofList [("session", session)]], .empty, none⟩

/-- An API with that operation. -/
def sessionSetup : Setup :=
  ⟨sessionBundle, ⟨.ofMembers [("paths", .ofMembers [("/read", .ofMembers
    [("get", .ofMembers [("operationId", .string "read")])])])]⟩, "https://api.test"⟩

/-- A playbook of what is done before all and of the operation. -/
def sessionPlaybook : Playbook :=
  ⟨"session", sessionBundle.before ++ [.ofRef ⟨.operation, "read"⟩]⟩

theorem resolved_runAll_session :
    sessionSetup.bundle.IsValid ∧ (∀ p ∈ [sessionPlaybook], sessionSetup.bundle.Supplies p) ∧
      Resolved
        ((sessionSetup.runAll ⟨.empty, .empty⟩ [] [sessionPlaybook]).run .mock []).trace := by
  have hvalid : sessionSetup.bundle.IsValid := by decide +kernel
  have hsupplies : ∀ p ∈ [sessionPlaybook], sessionSetup.bundle.Supplies p := by
    intro p hp s hs
    cases List.mem_singleton.mp hp
    rcases List.mem_append.mp hs with hs | hs
    · exact .inl (.before hs)
    · cases List.mem_singleton.mp hs
      exact .inr ⟨⟨.operation, "read"⟩, rfl, by decide +kernel⟩
  exact ⟨hvalid, hsupplies, resolved_runAll sessionSetup .mock ⟨.empty, .empty⟩ []
    [sessionPlaybook] hvalid hsupplies⟩

end ApiPlaybook
