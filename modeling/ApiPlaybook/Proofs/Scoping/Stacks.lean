/-
  ApiPlaybook.Proofs.Scoping.Stacks
  ─────────────────────────────────
  **WHAT A STAGE CAN SEE.**

  The values of a request are looked up in the scopes around the run, in those
  that the run and the open playbooks hold at that moment, and in the two scopes
  of the stage itself.  The template of a credential sees what was set for it in
  place of the latter.  Nothing else is ever seen, so all of it can be read off
  the events that came before (`Event.Sees`):

      every event of a run sees the holdings behind the events before it
      (`scoped_runAll`).

  The holdings are followed with the rules of a run, from what one rule gives to
  what a whole run gives.
-/
import ApiPlaybook.Proofs.Scoping.Holdings
import ApiPlaybook.Proofs.Template.LookUps

namespace ApiPlaybook

/-! ## §1. What an event sees. -/

/-- The scopes that an event tells of are those around the run, those that are held
at it, and its own; and they back what it found. -/
def Event.Sees (around : ScopeStack) (h : Holdings) : Event → Prop
  | .payloadSubstituted stack found _ =>
    (∃ ofStage ofRequest : Scope, ofStage.id = stageScopeId ∧ ofRequest.id = requestScopeId ∧
      stack = around ++ h.visible ++ [ofStage, ofRequest]) ∧ stack.Backs found
  | .credentialSubstituted _ _ stack found _ =>
    stack = around ++ h.visible ++ h.innermost ∧ stack.Backs found
  | _ => True

/-- Each event of a trace sees the holdings behind those before it. -/
def Sees (around : ScopeStack) : Holdings → List Event → Prop
  | _, [] => True
  | h, e :: rest => e.Sees around h ∧ Sees around (e.holdingsAfter h) rest

/-- Each part sees what the parts before it have left. -/
theorem sees_append (around : ScopeStack) (h : Holdings) (x y : List Event) :
    Sees around h (x ++ y) ↔ Sees around h x ∧ Sees around (holdingsAfter h x) y := by
  induction x generalizing h with
  | nil => simp [Sees]
  | cons e rest ih => simp only [List.cons_append, Sees, holdingsAfter_cons, ih, and_assoc]

/-- The event at a place sees the holdings at that place. -/
theorem Sees.at {around : ScopeStack} {h : Holdings} {before after : List Event} {e : Event}
    (hs : Sees around h (before ++ e :: after)) : e.Sees around (holdingsAfter h before) :=
  ((sees_append around h before (e :: after)).mp hs).2.1

/-- A trace with the holdings before it and behind it. -/
structure Shows (around : ScopeStack) (h : Holdings) (trace : List Event) (h' : Holdings) :
    Prop where
  sees : Sees around h trace
  behind : holdingsAfter h trace = h'

namespace Shows

variable {around : ScopeStack} {h h' h'' : Holdings} {x y : List Event}

theorem nil : Shows around h [] h := ⟨trivial, rfl⟩

/-- One event that sees what it should. -/
theorem single {e : Event} (he : e.Sees around h) : Shows around h [e] (e.holdingsAfter h) :=
  ⟨⟨he, trivial⟩, rfl⟩

/-- One part behind another, from the holdings that it leaves. -/
theorem append (hx : Shows around h x h') (hy : Shows around h' y h'') :
    Shows around h (x ++ y) h'' := by
  constructor
  · rw [sees_append, hx.behind]
    exact ⟨hx.sees, hy.sees⟩
  · rw [holdingsAfter_append, hx.behind, hy.behind]

/-- Events that tell of no scopes. -/
theorem quiet (hq : ∀ e ∈ x, ∀ h, e.Sees around h) : Shows around h x (holdingsAfter h x) := by
  refine ⟨?_, rfl⟩
  induction x generalizing h with
  | nil => trivial
  | cons e rest ih =>
    exact ⟨hq e List.mem_cons_self h, ih fun e' he' => hq e' (List.mem_cons_of_mem e he')⟩

end Shows

/-! ## §2. Credentials. -/

section Rules

variable {c : Setup} {t : Transport} {nested : Runner} {around stack : ScopeStack} {h : Holdings}

/-- The playbooks that a runner runs give what they set to what is around them. -/
def Runner.Shows (nested : Runner) (t : Transport) : Prop :=
  nested.EnsuresIn t fun _ _ stack _ o => ∀ around h, stack = around ++ Holdings.visible h →
    ApiPlaybook.Shows around h o.trace (h.give (o.value.getD []))

/-- What a playbook sets for a credential is held by the frame of the credential. -/
theorem Runner.Shows.acquiring (hn : nested.Shows t) (hs : stack = around ++ h.visible)
    {auth : String} {stages : List Stage} {m : Moment} {o : Outcome ScopeStack}
    (ho : (nested auth stages stack).outcome t m = o) :
    ApiPlaybook.Shows around (h.opened (.credential auth)) o.trace
      ((h.opened (.credential auth)).give (o.value.getD [])) := by
  -- opening the frame hides nothing and shows nothing more
  have hv : (h.opened (.credential auth)).visible = h.visible := h.visible_give_credential [] auth
  subst ho
  exact hn auth stages stack m around (h.opened (.credential auth)) (by rw [hs, hv])

/-- The playbook of a credential gives its scopes to the credential. -/
theorem AcquisitionRun.shows (hn : nested.Shows t) {auth : String} {method : CredentialMethod}
    {scopes : ScopeStack} {m m' : Moment} {trace : List Event}
    (ha : AcquisitionRun t nested auth method stack m scopes trace m')
    (hs : stack = around ++ h.visible) :
    ∃ assigned, scopes = stack ++ assigned ∧
      Shows around (h.opened (.credential auth)) trace
        ((h.opened (.credential auth)).give assigned) := by
  cases ha with
  | direct => exact ⟨[], (List.append_nil stack).symm, .nil⟩
  | @staged stages assigned trace m' _ ho => exact ⟨assigned, rfl, hn.acquiring hs ho⟩

/-- Whether or not it succeeds, a credential leaves the holdings as they were. -/
theorem CredentialRun.shows (hn : nested.Shows t) {auth : String} {m : Moment}
    {o : Outcome ResolvedCredential} (hc : CredentialRun c t nested stack auth m o)
    (hs : stack = around ++ h.visible) : Shows around h o.trace h := by
  have started : Shows around h [.authStarted auth] (h.opened (.credential auth)) :=
    .single trivial
  -- the template is filled in from the scopes of the stage and those of the credential
  have filled {scopes assigned : ScopeStack} {method : CredentialMethod}
      {r : Replacement String} (ha : scopes = stack ++ assigned)
      (hf : substituteCredential method.template scopes = r) {missing : List MissingVariable}
      {last : Event} (hl : ∀ h, last.Sees around h) (hb : ∀ h, last.holdingsAfter h = h.closed) :
      Shows around ((h.opened (.credential auth)).give assigned)
        [.credentialSubstituted auth r.value scopes r.found missing, last] h := by
    subst ha hf
    refine ⟨⟨⟨?_, (substituteCredential_makes _ method.template).backed⟩, hl _, trivial⟩, hb _⟩
    rw [hs, Holdings.visible_give_credential]
    rfl
  cases hc with
  | unknown hm => exact started.append (.single trivial)
  | kept hm hk => exact ⟨⟨trivial, trivial, trivial, trivial⟩, rfl⟩
  | notAcquired hm hk hst ho =>
    exact (started.append (hn.acquiring hs ho)).append (.single trivial)
  | incomplete hm hk ha hf hmissing =>
    obtain ⟨assigned, hscopes, hshows⟩ := ha.shows hn hs
    exact (started.append hshows).append (filled hscopes hf (fun _ => trivial) fun _ => rfl)
  | obtained hm hk ha hf hmissing =>
    obtain ⟨assigned, hscopes, hshows⟩ := ha.shows hn hs
    exact (started.append hshows).append (filled hscopes hf (fun _ => trivial) fun _ => rfl)

/-- Credentials leave the holdings as they were, one after another. -/
theorem CredentialsRun.shows (hn : nested.Shows t) {auths : List String} {result : AuthResult}
    {m : Moment} {o : Outcome AuthResult} (hc : CredentialsRun c t nested stack auths result m o)
    (hs : stack = around ++ h.visible) : Shows around h o.trace h := by
  induction hc with
  | done => exact .nil
  | failed hc => exact hc.shows hn hs
  | next hc hr ih => exact (hc.shows hn hs).append ih

/-! ## §3. Stages and playbooks. -/

/-- The holdings behind a part of a playbook, from the scopes that the playbook has
set by then; a failure closes the playbook. -/
def Outcome.holdings (h : Holdings) (name : String) (assigned : ScopeStack)
    (o : Outcome ScopeStack) : Holdings :=
  match o.value with
  | some scopes => h.within name (assigned ++ scopes)
  | none => h

/-- The report of a payload sees the scopes around it and the two scopes of the stage. -/
theorem Stage.payload_sees {s : Stage} {request : Request} {p : Payload}
    (hp : s.payload request stack = p) (hs : stack = around ++ h.visible) :
    p.report.Sees around h := by
  have hbacks := s.payload_backed request stack
  rw [hp] at hbacks
  refine ⟨?_, hbacks⟩
  subst hp
  let ofStage := (substituteScope stageScopeId s.vars stack).value
  let ofRequest := (substituteScope requestScopeId request.vars (stack ++ [ofStage])).value
  refine ⟨ofStage, ofRequest, rfl, rfl, ?_⟩
  show stack ++ [ofStage] ++ [ofRequest] = _
  rw [← hs, List.append_assoc]
  rfl

/-- **ONE REQUEST** sees the scopes of its playbook, and gives two to it if it is done. -/
theorem RequestRun.shows {playbook name : String} {index : Nat} {s : Stage} {request : Request}
    {credentials : AuthResult} {m : Moment} {o : Outcome ScopeStack} {assigned : ScopeStack}
    (hr : RequestRun c t playbook index s stack request credentials m o)
    (hs : stack = around ++ (h.within name assigned).visible) :
    Shows around (h.within name assigned) o.trace (o.holdings h name assigned) := by
  -- only the first event tells of scopes; what is set comes behind it
  have first {p : Payload} (hp : s.payload request stack = p) :
      Shows around (h.within name assigned) [p.report] (h.within name assigned) :=
    .single (Stage.payload_sees hp hs)
  cases hr with
  | variablesMissing hp hn => exact (first hp).append (.quiet (by simp [Event.Sees]))
  | notBuilt hp hn hb => exact (first hp).append (.quiet (by simp [Event.Sees]))
  | notSent hp hn hb ha => exact (first hp).append (.quiet (by simp [Event.Sees]))
  | unexpected hp hn hb ha hu => exact (first hp).append (.quiet (by simp [Event.Sees]))
  | requestRulesFailed hp hn hb ha hu h₁ =>
    exact (first hp).append (.quiet (by simp [Event.Sees]))
  | stageRulesFailed hp hn hb ha hu h₁ h₂ =>
    exact (first hp).append (.quiet (by simp [Event.Sees]))
  | @done p http reply first' second hp hn hb ha hu h₁ h₂ =>
    have hq := (first hp).append (y := [.requestPrepared http request.operationId,
      .responseReceived reply, .variablesAssigned first', .variablesAssigned second])
      (.quiet (by simp [Event.Sees]))
    have hb : holdingsAfter (h.within name assigned) [.requestPrepared http request.operationId,
      .responseReceived reply, .variablesAssigned first', .variablesAssigned second]
        = h.within name (assigned ++ [first', second]) := by
      show ((h.within name assigned).give [first']).give [second] = _
      rw [Holdings.give_give, Holdings.within_give]
      rfl
    rw [hb] at hq
    exact hq

/-- Its credentials come before it and leave the holdings as they were. -/
theorem StageRun.shows (hn : nested.Shows t) {playbook name : String} {index : Nat} {s : Stage}
    {m : Moment} {o : Outcome ScopeStack} {assigned : ScopeStack}
    (hr : StageRun c t nested playbook index s stack m o)
    (hs : stack = around ++ (h.within name assigned).visible) :
    Shows around (h.within name assigned) o.trace (o.holdings h name assigned) := by
  have started (ref : RequestRef) : Shows around (h.within name assigned) [.requestStarted ref]
      (h.within name assigned) := .single trivial
  cases hr with
  | noRequest hr => exact .single trivial
  | noCredentials hr hc =>
    exact ((started _).append (hc.shows hn hs)).append (.single trivial)
  | ran hr hc ho => exact ((started _).append (hc.shows hn hs)).append (ho.shows hs)

/-- Each stage sees what the stages before it have set. -/
theorem StagesRun.shows (hn : nested.Shows t) {playbook : String} {assigned : ScopeStack}
    {index : Nat} {stages : List Stage} {m : Moment} {o : Outcome ScopeStack}
    (hr : StagesRun c t nested playbook stack index assigned stages m o)
    (hs : stack = around ++ h.visible) :
    Shows around (h.within playbook assigned) o.trace (o.holdings h playbook []) := by
  -- what was set by the stages before is what the playbook holds
  have seen (assigned : ScopeStack) :
      stack ++ assigned = around ++ (h.within playbook assigned).visible := by
    rw [hs, Holdings.visible_within, List.append_assoc]
  induction hr with
  | done => exact .nil
  | failed hr => exact hr.shows hn (seen _)
  | next hr hrest ih => exact (hr.shows hn (seen _)).append ih

/-- A playbook that finishes gives its scopes to what is around it. -/
theorem PlaybookRun.shows (hn : nested.Shows t) {name : String} {stages : List Stage}
    {m : Moment} {o : Outcome ScopeStack} (hr : PlaybookRun c t nested name stages stack m o)
    (hs : stack = around ++ h.visible) :
    Shows around h o.trace (h.give (o.value.getD [])) := by
  have started : Shows around h [.playbookStarted name] (h.within name []) := by
    have hq : Shows around h [.playbookStarted name] (h.opened (.playbook name)) := .single trivial
    unfold Holdings.within
    rwa [Holdings.give_nil]
  cases hr with
  | failed hr =>
    show Shows around h _ (h.give [])
    rw [Holdings.give_nil]
    exact started.append (hr.shows hn hs)
  | finished hr => exact (started.append (hr.shows hn hs)).append (.single trivial)

end Rules

section Playbooks

variable (c : Setup) (t : Transport)

/-- By induction on the levels that are left, playbooks see what is held around them. -/
theorem playbookWithin_shows (levels depth : Nat) :
    (c.playbookWithin levels depth).Shows t := by
  refine playbookWithin_inductionIn c t
    (P := fun _ _ _ stack _ o => ∀ around h, stack = around ++ Holdings.visible h →
      Shows around h o.trace (h.give (o.value.getD []))) ?_ ?_ levels depth
  · intro name stages stack m around h hs
    show Shows around h _ (h.give [])
    rw [Holdings.give_nil]
    exact ⟨⟨trivial, trivial, trivial⟩, rfl⟩
  · intro levels depth ih name stages stack m o hr around h hs
    exact hr.shows ih hs

/-- The run holds what its playbooks have given so far. -/
theorem PlaybooksRun.shows {c : Setup} {t : Transport} {stack assigned v : ScopeStack}
    {ps : List Playbook} {m m' : Moment} {trace : List Event}
    (hr : PlaybooksRun c t stack assigned ps m v trace m') :
    Shows stack ⟨assigned, []⟩ trace ⟨v, []⟩ := by
  -- between two playbooks nothing is open
  have playbook (p : Playbook) (assigned : ScopeStack) {m : Moment} {o : Outcome ScopeStack}
      (ho : (c.playbookAt 0 p.name p.stages (stack ++ assigned)).outcome t m = o) :
      Shows stack ⟨assigned, []⟩ o.trace ⟨assigned ++ o.value.getD [], []⟩ := by
    have hv : stack ++ assigned = stack ++ (Holdings.mk assigned []).visible := by
      simp [Holdings.visible]
    subst ho
    exact playbookWithin_shows c t maxDepth 0 p.name p.stages (stack ++ assigned) m stack
      ⟨assigned, []⟩ hv
  induction hr with
  | done => exact .nil
  | passedOver hp hr ih => exact ih
  | halted hp hn =>
    have h := playbook _ _ hn
    simpa using h
  | next hp hn hr ih => exact (playbook _ _ hn).append ih

end Playbooks

/-! ## §4. Runs. -/

/-- What the scopes in a trace are, and what the run sets in the end. -/
structure Scoped (c : Setup) (around : ScopeStack) (trace : List Event) (value : ScopeStack) :
    Prop where
  /-- A payload sees the scopes around the run, those that the run and the open playbooks
  hold, and the two of its own stage. -/
  payload : ∀ before stack found missing after,
    trace = before ++ .payloadSubstituted stack found missing :: after →
      (∃ ofStage ofRequest : Scope, ofStage.id = stageScopeId ∧ ofRequest.id = requestScopeId ∧
        stack = around ++ (holdingsAfter .empty before).visible ++ [ofStage, ofRequest]) ∧
      ∀ f ∈ found, ∃ scope ∈ stack, scope.id = f.origin ∧ scope.vars.get? f.name = some f.value
  /-- A credential sees what was set for it instead of the latter two. -/
  template : ∀ before auth value stack found missing after,
    trace = before ++ .credentialSubstituted auth value stack found missing :: after →
      stack = around ++ (holdingsAfter .empty before).visible
        ++ (holdingsAfter .empty before).innermost ∧
      ∀ f ∈ found, ∃ scope ∈ stack, scope.id = f.origin ∧ scope.vars.get? f.name = some f.value
  /-- Behind the block of a credential the same is seen as if the block had not been. -/
  confined : ∀ before block after depth auth, trace = before ++ block ++ after →
    CredentialDone c depth auth block →
      ∀ seen, holdingsAfter .empty (before ++ block ++ seen) = holdingsAfter .empty (before ++ seen)
  /-- When the run is over nothing is open, and the run holds its value. -/
  final : holdingsAfter .empty trace = ⟨value, []⟩

/-- **SCOPES END WITH WHAT THEY WERE SET FOR**: whatever the bundle, the API, the values,
the scopes around the run, the playbooks and the transport, each look-up of a run sees
what the open playbooks have set by then and nothing that was set for a credential. -/
theorem scoped_runAll (c : Setup) (t : Transport) (values : RuntimeValues) (extra : ScopeStack)
    (ps : List Playbook) :
    Scoped c ([(c.bundle.importEnvironment values).scope] ++ extra)
      ((c.runAll values extra ps).run t []).trace ((c.runAll values extra ps).run t []).value := by
  obtain ⟨m, hrun, -⟩ := playbooksRun_runAll c t values extra ps
  generalize ((c.runAll values extra ps).run t []).trace = trace at hrun ⊢
  have hshows := hrun.shows
  refine ⟨?_, ?_, ?_, hshows.behind⟩
  · rintro before stack found missing after rfl
    exact hshows.sees.at
  · rintro before auth value stack found missing after rfl
    exact hshows.sees.at
  · intro before block after depth auth _ hblock seen
    rw [holdingsAfter_append, holdingsAfter_append, hblock.leaves, holdingsAfter_append]

end ApiPlaybook
