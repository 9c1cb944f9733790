/-
  ApiPlaybook.Proofs.Run.Nesting
  ──────────────────────────────
  **THE DEPTH FOLLOWED FROM THE EVENTS IS THE DEPTH OF THE RUN.**

  While a trace is read, `Nesting` follows from the events alone how many
  playbooks are open.  The run itself knows it: a playbook is open from the
  moment at which it is run until it has an outcome, and the playbooks that
  acquire credentials are run in between.  So the events of a run can be placed
  (`Activation`): the events of one playbook, with whole playbooks one level
  deeper among them.

      the tracker agrees with the run at every event, it never goes below zero,
      and it is at zero wherever no playbook is open (`tracked_of_runs`).

  A failure may end no playbook, one or several at once, and only some have an
  event for that; so each of the rules of a run says what the tracker does over
  its events (§3), and one place is as good as any other (§4).
-/
import ApiPlaybook.Proofs.Run.Rules
import ApiPlaybook.Run.Line

namespace ApiPlaybook

/-! ## §1. Where a run is. -/

/-- An event with the number of playbooks that are being run when it is reported, the
one that it starts or ends among them. -/
abbrev Placed := Nat × Event

/-- Whether an event starts a playbook. -/
def Event.startsPlaybook : Event → Bool
  | .playbookStarted _ => true
  | _ => false

/-- Whether a playbook ends with an event: by an event of its own, or by the failure of
one of its stages. -/
def Event.endsPlaybook : Event → Bool
  | .playbookFinished | .playbookAborted _ | .prepareFailed _ | .transportFailed _
  | .processingFailed _ => true
  | _ => false

/-- A portion of what is reported inside `n` playbooks: an event of the innermost one
itself, or all of a further playbook that is run there. -/
inductive Portion (call : List Placed → Prop) (n : Nat) : List Placed → Prop where
  | own {e : Event} (he : e.startsPlaybook = false) : Portion call n [(n, e)]
  | playbook {block : List Placed} (hb : call block) : Portion call n block

/-- Events that are reported inside `n` playbooks, portion by portion. -/
def Reported (call : List Placed → Prop) (n : Nat) (portions : List (List Placed)) : Prop :=
  ∀ x ∈ portions, Portion call n x

/-- The events of one run of a playbook, inside `n` others: the first one starts it, and
those of the playbooks that it runs are placed by `call`. -/
def Setup.RunsInside (c : Setup) (t : Transport) (levels depth n : Nat)
    (call : List Placed → Prop) (placed : List Placed) : Prop :=
  ∃ name stages stack m portions,
    placed = (n + 1, .playbookStarted name) :: portions.flatten ∧
    placed.map (·.2) = ((c.playbookWithin levels depth name stages stack).outcome t m).trace ∧
    Reported call (n + 1) portions

/-- The events of a playbook that is run inside `n` others, with some levels left. -/
def Setup.Activation (c : Setup) (t : Transport) : Nat → Nat → Nat → List Placed → Prop
  | 0, depth, n => c.RunsInside t 0 depth n fun _ => False
  | levels + 1, depth, n =>
    c.RunsInside t (levels + 1) depth n (c.Activation t levels (depth + 1) (n + 1))

section Reported

variable {call : List Placed → Prop} {n : Nat}

theorem Reported.nil : Reported call n [] := by
  intro x hx
  cases hx

/-- Portions of one depth are reported one after another. -/
theorem Reported.append {a b : List (List Placed)} (ha : Reported call n a)
    (hb : Reported call n b) : Reported call n (a ++ b) :=
  List.forall_mem_append.mpr ⟨ha, hb⟩

/-- An event of the stage itself is a portion. -/
theorem Reported.own {e : Event} (he : e.startsPlaybook = false) :
    Reported call n [[(n, e)]] :=
  List.forall_mem_singleton.mpr (.own he)

/-- The block of a playbook is a portion. -/
theorem Reported.playbook {block : List Placed} (hb : call block) : Reported call n [block] :=
  List.forall_mem_singleton.mpr (.playbook hb)

end Reported

/-! ## §2. The tracker at the places of a trace. -/

namespace Nesting

/-- The tracker behind events. -/
def after (n : Nesting) (trace : List Event) : Nesting :=
  trace.foldl (fun n e => (n.depthOf e).2) n

@[simp] theorem after_nil (n : Nesting) : n.after [] = n := rfl

@[simp] theorem after_cons (n : Nesting) (e : Event) (trace : List Event) :
    n.after (e :: trace) = (n.depthOf e).2.after trace := rfl

/-- An event that neither starts nor ends a playbook leaves the depth as it is. -/
theorem depthOf_quiet {n : Nesting} {e : Event} (hs : e.startsPlaybook = false)
    (he : e.endsPlaybook = false) : (n.depthOf e).2 = n := by
  cases e <;> simp [Event.startsPlaybook, Event.endsPlaybook] at hs he <;> rfl

/-- The end of a playbook takes the depth back by one. -/
theorem depthOf_ending {n : Nesting} {e : Event} (he : e.endsPlaybook = true) :
    (n.depthOf e).2 = ⟨n.level - 1⟩ := by
  cases e <;> first | rfl | cases he

end Nesting

/-- How many playbooks are open just before an event inside `k` of them: the one that it
starts is not. -/
def Event.openBefore (k : Nat) (e : Event) : Nat := if e.startsPlaybook then k - 1 else k

/-- The depth of an event inside `k` playbooks.  The playbook that is started, finished or
aborted does not count; the one that ends with a stage that fails does. -/
def Event.shownDepth (k : Nat) : Event → Nat
  | .playbookStarted _ | .playbookFinished | .playbookAborted _ => k - 1
  | _ => k

/-- From one state of the tracker to another: before each event it holds the number of
open playbooks, and before an event that ends one that number is positive. -/
def Nesting.Follows (n : Nesting) : List Placed → Nesting → Prop
  | [], n' => n' = n
  | (k, e) :: rest, n' =>
    (n.level = e.openBefore k ∧ (e.endsPlaybook = true → 0 < n.level)) ∧
      (n.depthOf e).2.Follows rest n'

section Follows

variable {n n' n'' : Nesting} {k : Nat} {e : Event} {a b placed : List Placed}

/-- The depth is followed through one part and then the other. -/
theorem Nesting.Follows.append (ha : n.Follows a n') (hb : n'.Follows b n'') :
    n.Follows (a ++ b) n'' := by
  induction a generalizing n with
  | nil =>
    cases ha
    exact hb
  | cons p rest ih =>
    obtain ⟨hp, hrest⟩ := ha
    exact ⟨hp, ih hrest⟩

/-- The depth behind a part is that at which following it ends. -/
theorem Nesting.Follows.after_eq (h : n.Follows placed n') :
    n.after (placed.map (·.2)) = n' := by
  induction placed generalizing n with
  | nil => exact h.symm
  | cons p rest ih => exact ih h.2

/-- The state of the tracker at a place of the trace. -/
theorem Nesting.Follows.at (h : n.Follows (a ++ (k, e) :: b) n') :
    (n.after (a.map (·.2))).level = e.openBefore k ∧
      (e.endsPlaybook = true → 0 < (n.after (a.map (·.2))).level) := by
  induction a generalizing n with
  | nil => exact h.1
  | cons p rest ih => exact ih h.2

/-- Behind a part the rest is followed from where that part ends. -/
theorem Nesting.Follows.drop (h : n.Follows (a ++ b) n') :
    (n.after (a.map (·.2))).Follows b n' := by
  induction a generalizing n with
  | nil => exact h
  | cons p rest ih => exact ih h.2

/-- The depth that is shown when the tracker holds the number of open playbooks. -/
theorem Nesting.depthOf_eq (h : n.level = e.openBefore k) :
    (n.depthOf e).1 = e.shownDepth k := by
  unfold Event.openBefore at h
  cases e <;> simp only [Event.startsPlaybook, if_true, if_false, Bool.false_eq_true] at h <;>
    simp [Nesting.depthOf, Event.shownDepth, h]

/-- Where the depth is followed, every event is shown at the depth it was reported at. -/
theorem Nesting.Follows.depths_eq (h : n.Follows placed n') :
    n.depths (placed.map (·.2)) = placed.map fun p => p.2.shownDepth p.1 := by
  induction placed generalizing n with
  | nil => rfl
  | cons p rest ih =>
    obtain ⟨k, e⟩ := p
    obtain ⟨⟨hlevel, -⟩, hrest⟩ := h
    rw [List.map_cons, List.map_cons, Nesting.depths, Nesting.depthOf_eq hlevel, ih hrest]

end Follows

/-! ## §3. Runs can be placed, and are followed there. -/

/-- Events reported inside `n` playbooks, of which `n'` are open behind them. -/
def Tracked (call : List Placed → Prop) (n : Nat) (trace : List Event) (n' : Nat) : Prop :=
  ∃ portions, Reported call n portions ∧ portions.flatten.map (·.2) = trace ∧
    (Nesting.mk n).Follows portions.flatten ⟨n'⟩

namespace Tracked

variable {call : List Placed → Prop} {n n' : Nat} {x y : List Event}

theorem nil : Tracked call n [] n := ⟨[], .nil, rfl, rfl⟩

/-- Tracked parts one after another, the first of which comes back to its depth. -/
theorem append (hx : Tracked call n x n) (hy : Tracked call n y n') :
    Tracked call n (x ++ y) n' := by
  obtain ⟨a, ha, rfl, hfa⟩ := hx
  obtain ⟨b, hb, rfl, hfb⟩ := hy
  refine ⟨a ++ b, ha.append hb, ?_, ?_⟩
  · rw [List.flatten_append, List.map_append]
  · rw [List.flatten_append]
    exact hfa.append hfb

/-- An event that neither starts nor ends a playbook leaves the tracker as it is. -/
theorem own {e : Event} (hs : e.startsPlaybook = false) (he : e.endsPlaybook = false) :
    Tracked call n [e] n := by
  have hlevel : (Nesting.mk n).level = e.openBefore n := by simp [Event.openBefore, hs]
  refine ⟨[[(n, e)]], .own hs, rfl, ⟨hlevel, fun h => ?_⟩, (Nesting.depthOf_quiet hs he).symm⟩
  rw [he] at h
  cases h

/-- An event that ends the innermost playbook. -/
theorem ending {e : Event} (he : e.endsPlaybook = true) : Tracked call (n + 1) [e] n := by
  have hs : e.startsPlaybook = false := by cases e <;> first | rfl | cases he
  have hlevel : (Nesting.mk (n + 1)).level = e.openBefore (n + 1) := by
    simp [Event.openBefore, hs]
  have hafter : ((Nesting.mk (n + 1)).depthOf e).2 = ⟨n⟩ := Nesting.depthOf_ending he
  exact ⟨[[(n + 1, e)]], .own hs, rfl, ⟨hlevel, fun _ => Nat.succ_pos n⟩, hafter.symm⟩

/-- Several events that neither start nor end a playbook. -/
theorem quiet (h : ∀ e ∈ x, e.startsPlaybook = false ∧ e.endsPlaybook = false) :
    Tracked call n x n := by
  induction x with
  | nil => exact .nil
  | cons e rest ih =>
    obtain ⟨hs, he⟩ := h e List.mem_cons_self
    exact (own hs he).append (ih fun d hd => h d (List.mem_cons_of_mem e hd))

/-- Such events around a trace. -/
theorem between (hx : ∀ e ∈ x, e.startsPlaybook = false ∧ e.endsPlaybook = false)
    {z : List Event} (hz : ∀ e ∈ z, e.startsPlaybook = false ∧ e.endsPlaybook = false)
    (hy : Tracked call n y n) : Tracked call n (x ++ y ++ z) n :=
  ((quiet hx).append hy).append (quiet hz)

end Tracked

/-- The part of a playbook that is followed: a failure ends the innermost playbook. -/
def Outcome.Tracked {α : Type} (call : List Placed → Prop) (n : Nat) (o : Outcome α) : Prop :=
  ApiPlaybook.Tracked call (n + 1) o.trace (if o.value.isSome then n + 1 else n)

section Rules

variable {c : Setup} {t : Transport} {nested : Runner} {call : Nat → List Placed → Prop}

/-- The playbooks that a runner runs inside so many others are followed, and placed by
`call`. -/
def Runner.Tracked (nested : Runner) (t : Transport) (call : Nat → List Placed → Prop) : Prop :=
  nested.Ensures t fun _ _ _ o => ∀ n, ∃ placed, call n placed ∧ placed.map (·.2) = o.trace ∧
    (Nesting.mk n).Follows placed ⟨n⟩

/-- A whole playbook leaves the tracker as it was. -/
theorem Runner.Tracked.trace (hn : nested.Tracked t call) {name : String} {stages : List Stage}
    {stack : ScopeStack} {m m' : Moment} {v : Option ScopeStack} {trace : List Event}
    (ho : (nested name stages stack).outcome t m = ⟨v, trace, m'⟩) (n : Nat) :
    ApiPlaybook.Tracked (call n) n trace n := by
  obtain ⟨placed, hcall, htrace, hfollows⟩ := Runner.Ensures.of_outcome hn ho n
  have hflat : [placed].flatten = placed := by simp
  exact ⟨[placed], .playbook hcall, by rw [hflat, htrace], by rw [hflat]; exact hfollows⟩

/-- The playbook of a credential comes back to the depth it was called at. -/
theorem AcquisitionRun.tracked (hn : nested.Tracked t call) {auth : String}
    {method : CredentialMethod} {stack scopes : ScopeStack} {m m' : Moment} {trace : List Event}
    (h : AcquisitionRun t nested auth method stack m scopes trace m') (n : Nat) :
    Tracked (call n) n trace n := by
  cases h with
  | direct hs => exact .nil
  | staged hs ho => exact hn.trace ho n

/-- A credential comes back to its depth whether it fails or not. -/
theorem CredentialRun.tracked (hn : nested.Tracked t call) {auth : String} {stack : ScopeStack}
    {m : Moment} {o : Outcome ResolvedCredential}
    (h : CredentialRun c t nested stack auth m o) (n : Nat) :
    Tracked (call n) n o.trace n := by
  -- a credential that is aborted ends no playbook; only the stage that needed it does
  cases h with
  | unknown hm => exact .quiet (by simp [Event.startsPlaybook, Event.endsPlaybook])
  | kept hm hk => exact .quiet (by simp [Event.startsPlaybook, Event.endsPlaybook])
  | notAcquired hm hk hs ho =>
    exact (hn.trace ho n).between (by simp [Event.startsPlaybook, Event.endsPlaybook])
      (by simp [Event.startsPlaybook, Event.endsPlaybook])
  | incomplete hm hk ha hf hmissing =>
    exact (ha.tracked hn n).between (by simp [Event.startsPlaybook, Event.endsPlaybook])
      (by simp [Event.startsPlaybook, Event.endsPlaybook])
  | obtained hm hk ha hf hmissing =>
    exact (ha.tracked hn n).between (by simp [Event.startsPlaybook, Event.endsPlaybook])
      (by simp [Event.startsPlaybook, Event.endsPlaybook])

theorem CredentialsRun.tracked (hn : nested.Tracked t call) {auths : List String}
    {stack : ScopeStack} {result : AuthResult} {m : Moment} {o : Outcome AuthResult}
    (h : CredentialsRun c t nested stack auths result m o) (n : Nat) :
    Tracked (call n) n o.trace n := by
  induction h with
  | done => exact .nil
  | failed hc => exact hc.tracked hn n
  | next hc hr ih => exact (hc.tracked hn n).append ih

/-- A request keeps the depth, and its failure ends the playbook around it. -/
theorem RequestRun.tracked {playbook : String} {index : Nat} {s : Stage} {outer : ScopeStack}
    {request : Request} {credentials : AuthResult} {m : Moment} {o : Outcome ScopeStack}
    (h : RequestRun c t playbook index s outer request credentials m o)
    (call : List Placed → Prop) (n : Nat) : o.Tracked call n := by
  -- all events but the last of a failure belong to the stage, and that one ends its playbook
  have failed {x : List Event} {e : Event}
      (hx : ∀ e ∈ x, e.startsPlaybook = false ∧ e.endsPlaybook = false)
      (he : e.endsPlaybook = true) : Tracked call (n + 1) (x ++ [e]) n :=
    (Tracked.quiet hx).append (.ending he)
  cases h with
  | @variablesMissing p hp hn =>
    exact failed (x := [p.report])
      (by simp [Payload.report, Event.startsPlaybook, Event.endsPlaybook]) rfl
  | @notBuilt p e hp hn hb =>
    exact failed (x := [p.report])
      (by simp [Payload.report, Event.startsPlaybook, Event.endsPlaybook]) rfl
  | @notSent p http e hp hn hb ha =>
    exact failed (x := [p.report, .requestPrepared http request.operationId])
      (by simp [Payload.report, Event.startsPlaybook, Event.endsPlaybook]) rfl
  | @unexpected p http reply e hp hn hb ha hu =>
    exact failed
      (x := [p.report, .requestPrepared http request.operationId, .responseReceived reply])
      (by simp [Payload.report, Event.startsPlaybook, Event.endsPlaybook]) rfl
  | @requestRulesFailed p http reply e hp hn hb ha hu h₁ =>
    exact failed
      (x := [p.report, .requestPrepared http request.operationId, .responseReceived reply])
      (by simp [Payload.report, Event.startsPlaybook, Event.endsPlaybook]) rfl
  | @stageRulesFailed p http reply first e hp hn hb ha hu h₁ h₂ =>
    exact failed (x := [p.report, .requestPrepared http request.operationId,
        .responseReceived reply, .variablesAssigned first])
      (by simp [Payload.report, Event.startsPlaybook, Event.endsPlaybook]) rfl
  | done hp hn hb ha hu h₁ h₂ =>
    exact Tracked.quiet (by simp [Payload.report, Event.startsPlaybook, Event.endsPlaybook])

/-- A stage is one level below its playbook, and its failure ends the playbook. -/
theorem StageRun.tracked (hn : nested.Tracked t call) {playbook : String} {index : Nat}
    {s : Stage} {outer : ScopeStack} {m : Moment} {o : Outcome ScopeStack}
    (h : StageRun c t nested playbook index s outer m o) (n : Nat) :
    o.Tracked (call (n + 1)) n := by
  cases h with
  | noRequest hr => exact Tracked.ending rfl
  | noCredentials hr hc =>
    exact ((Tracked.own rfl rfl).append (hc.tracked hn (n + 1))).append (.ending rfl)
  | ran hr hc ho =>
    exact ((Tracked.own rfl rfl).append (hc.tracked hn (n + 1))).append (ho.tracked _ n)

theorem StagesRun.tracked (hn : nested.Tracked t call) {playbook : String}
    {stack assigned : ScopeStack} {index : Nat} {stages : List Stage} {m : Moment}
    {o : Outcome ScopeStack} (h : StagesRun c t nested playbook stack index assigned stages m o)
    (n : Nat) : o.Tracked (call (n + 1)) n := by
  induction h with
  | done => exact Tracked.nil
  | failed hs => exact hs.tracked hn n
  | next hs hr ih =>
    -- a stage that succeeds leaves the playbook open for the next one
    have hfirst := hs.tracked hn n
    exact Tracked.append hfirst ih

/-- A playbook starts, goes one level down and comes back, by its end or by a failure. -/
theorem PlaybookRun.tracked (hn : nested.Tracked t call) {name : String} {stages : List Stage}
    {stack : ScopeStack} {m : Moment} {o : Outcome ScopeStack}
    (h : PlaybookRun c t nested name stages stack m o) (n : Nat) :
    ∃ body, o.trace = .playbookStarted name :: body ∧
      Tracked (call (n + 1)) (n + 1) body n := by
  cases h with
  | failed hs => exact ⟨_, rfl, hs.tracked hn n⟩
  | finished hs =>
    have hbody : Tracked (call (n + 1)) (n + 1) _ (n + 1) := hs.tracked hn n
    exact ⟨_, rfl, hbody.append (.ending rfl)⟩

end Rules

section Playbooks

variable (c : Setup) (t : Transport)

/-- A playbook whose body is followed is one more activation. -/
theorem activation_of_body {levels depth n : Nat} {call : List Placed → Prop} {name : String}
    {stages : List Stage} {stack : ScopeStack} {m : Moment} {body : List Event}
    (ho : ((c.playbookWithin levels depth name stages stack).outcome t m).trace
      = .playbookStarted name :: body)
    (hbody : Tracked call (n + 1) body n) :
    ∃ placed, c.RunsInside t levels depth n call placed ∧
      placed.map (·.2) = ((c.playbookWithin levels depth name stages stack).outcome t m).trace ∧
      (Nesting.mk n).Follows placed ⟨n⟩ := by
  obtain ⟨portions, hreported, rfl, hfollows⟩ := hbody
  have hevents : ((n + 1, Event.playbookStarted name) :: portions.flatten).map (·.2)
      = ((c.playbookWithin levels depth name stages stack).outcome t m).trace := by
    rw [ho, List.map_cons]
  refine ⟨_, ⟨name, stages, stack, m, portions, rfl, hevents, hreported⟩, hevents,
    ⟨rfl, fun h => ?_⟩, hfollows⟩
  cases h

/-- By induction on the levels that are left, every playbook is an activation. -/
theorem playbookWithin_tracked (levels depth : Nat) :
    (c.playbookWithin levels depth).Tracked t (c.Activation t levels depth) := by
  -- each level fewer is one deeper, and inside one more playbook
  induction levels generalizing depth with
  | zero =>
    intro name stages stack m n
    have ho : ((c.playbookWithin 0 depth name stages stack).outcome t m).trace
        = [.playbookStarted name, .playbookAborted .tooDeep] := by
      rw [outcome_playbookWithin_zero]
      rfl
    exact activation_of_body c t ho (.ending rfl)
  | succ levels ih =>
    intro name stages stack m n
    obtain ⟨body, ho, hbody⟩ :=
      (playbookRun_playbookWithin c t levels depth name stages stack m).tracked (ih (depth + 1)) n
    exact activation_of_body c t ho hbody

end Playbooks

/-! ## §4. There is only one way to place the events of a run. -/

/-- Events that come while `n` playbooks are open. -/
def StaysInside (n : Nat) (placed : List Placed) : Prop := ∀ p ∈ placed, n ≤ p.2.openBefore p.1

/-- Portions inside `n` playbooks come while these are open, if the playbooks that are run
there do. -/
theorem Reported.staysInside {call : List Placed → Prop} {n : Nat} {portions : List (List Placed)}
    (hr : Reported call n portions) (hcall : ∀ block, call block → StaysInside n block) :
    StaysInside n portions.flatten := by
  intro p hp
  obtain ⟨x, hx, hpx⟩ := List.mem_flatten.mp hp
  cases hr x hx with
  | own he =>
    rw [List.mem_singleton.mp hpx]
    simp [Event.openBefore, he]
  | playbook hb => exact hcall x hb p hpx

/-- A playbook is started inside those around it, and all its other events come while it is
open. -/
theorem activation_staysInside {c : Setup} {t : Transport} {levels depth n : Nat}
    {placed : List Placed} (h : c.Activation t levels depth n placed) :
    ∃ name rest, placed = (n + 1, .playbookStarted name) :: rest ∧ StaysInside (n + 1) rest := by
  induction levels generalizing depth n placed with
  | zero =>
    obtain ⟨name, stages, stack, m, portions, rfl, -, hr⟩ := h
    exact ⟨name, _, rfl, hr.staysInside fun _ hb => hb.elim⟩
  | succ levels ih =>
    obtain ⟨name, stages, stack, m, portions, rfl, -, hr⟩ := h
    refine ⟨name, _, rfl, hr.staysInside fun block hb => ?_⟩
    obtain ⟨inner, rest, rfl, hrest⟩ := ih hb
    exact List.forall_mem_cons.mpr
      ⟨Nat.le_refl (n + 1), fun p hp => Nat.le_of_succ_le (hrest p hp)⟩

/-- Wherever else the events of a portion might be placed, the tracker follows them there if
it follows them in one place. -/
theorem Reported.follows {call : List Placed → Prop} {n n' : Nat} {portions : List (List Placed)}
    {truth : List Placed} (hr : Reported call n portions)
    (hcall : ∀ block, call block → (Nesting.mk n).Follows block ⟨n⟩)
    (htruth : (Nesting.mk n).Follows truth ⟨n'⟩) (hopen : StaysInside n truth)
    (hsame : truth.map (·.2) = portions.flatten.map (·.2)) :
    (Nesting.mk n).Follows portions.flatten ⟨n'⟩ := by
  induction portions generalizing truth with
  | nil =>
    have hnil : truth = [] := List.map_eq_nil_iff.mp hsame
    rw [hnil] at htruth
    exact htruth
  | cons x rest ih =>
    obtain ⟨hx, hrest⟩ := List.forall_mem_cons.mp hr
    -- an event of the stage counts at the depth itself, a playbook at the depths of its block
    cases hx with
    | @own e he =>
      cases truth with
      | nil => cases hsame
      | cons p later =>
        obtain ⟨k, d⟩ := p
        obtain ⟨rfl, hlater⟩ := List.cons.inj hsame
        obtain ⟨⟨hlevel, hpos⟩, hfollows⟩ := htruth
        refine ⟨⟨by simp [Event.openBefore, he], hpos⟩, ?_⟩
        by_cases hends : d.endsPlaybook = true
        · -- nothing comes behind the end of the innermost playbook
          cases later with
          | nil =>
            have hnil : rest.flatten = [] := List.map_eq_nil_iff.mp hlater.symm
            show ((Nesting.mk n).depthOf d).2.Follows rest.flatten ⟨n'⟩
            rw [hnil]
            exact hfollows
          | cons q more =>
            have hq : n - 1 = q.2.openBefore q.1 := by
              have := hfollows.1.1
              rwa [Nesting.depthOf_ending hends] at this
            have hn : n ≤ q.2.openBefore q.1 := hopen q (by simp)
            have : 0 < n := hpos hends
            omega
        · have hquiet := Nesting.depthOf_quiet (n := ⟨n⟩) he (Bool.not_eq_true _ ▸ hends)
          rw [hquiet] at hfollows ⊢
          exact ih hrest hfollows (fun q hq => hopen q (List.mem_cons_of_mem _ hq)) hlater
    | playbook hb =>
      rw [List.flatten_cons, List.map_append] at hsame
      obtain ⟨a, b, rfl, ha, hb'⟩ := List.map_eq_append_iff.mp hsame
      have hfollows := hcall x hb
      have hbehind : (Nesting.mk n).after (a.map (·.2)) = ⟨n⟩ := by
        rw [ha]
        exact hfollows.after_eq
      have hdrop := htruth.drop
      rw [hbehind] at hdrop
      exact hfollows.append
        (ih hrest hdrop (fun q hq => hopen q (List.mem_append_right _ hq)) hb')

/-- The tracker follows the events of a playbook wherever they are placed. -/
theorem activation_follows {c : Setup} {t : Transport} {levels depth n : Nat}
    {placed : List Placed} (h : c.Activation t levels depth n placed) :
    (Nesting.mk n).Follows placed ⟨n⟩ := by
  -- the place that its run gives it is one where it is followed
  have runsInside {levels depth n : Nat} {call : List Placed → Prop} {placed : List Placed}
      (h : c.RunsInside t levels depth n call placed)
      (hcall : ∀ block, call block → (Nesting.mk (n + 1)).Follows block ⟨n + 1⟩) :
      (Nesting.mk n).Follows placed ⟨n⟩ := by
    obtain ⟨name, stages, stack, m, portions, rfl, htrace, hr⟩ := h
    obtain ⟨truth, hplaced, hevents, hfollows⟩ :=
      playbookWithin_tracked c t levels depth name stages stack m n
    obtain ⟨name', rest, rfl, hopen⟩ := activation_staysInside hplaced
    rw [← htrace, List.map_cons, List.map_cons] at hevents
    exact ⟨⟨rfl, fun he => nomatch he⟩,
      hr.follows hcall hfollows.2 hopen (List.cons.inj hevents).2⟩
  induction levels generalizing depth n placed with
  | zero => exact runsInside h fun _ hb => hb.elim
  | succ levels ih => exact runsInside h fun _ hb => ih hb

/-! ## §5. Whole runs. -/

/-- The tracker tells exactly how many playbooks are open, whatever the portions in which
events are placed. -/
structure Nesting.Exact (portions : List (List Placed)) : Prop where
  /-- The depth that is shown at an event is the number of playbooks around it. -/
  depths_eq : (Nesting.mk 0).depths (portions.flatten.map (·.2))
    = portions.flatten.map fun p => p.2.shownDepth p.1
  /-- Before each event the tracker holds the number of open playbooks, and it never goes
  below zero. -/
  level_eq : ∀ before k e behind, portions.flatten = before ++ (k, e) :: behind →
    ((Nesting.mk 0).after (before.map (·.2))).level = e.openBefore k ∧
      (e.endsPlaybook = true → 0 < ((Nesting.mk 0).after (before.map (·.2))).level)
  /-- Between the portions, and behind the last one, no playbook is open. -/
  between : ∀ i, (Nesting.mk 0).after ((portions.take i).flatten.map (·.2)) = ⟨0⟩

/-- Portions that are followed one by one. -/
theorem Nesting.exact_of_follows {portions : List (List Placed)}
    (h : ∀ x ∈ portions, (Nesting.mk 0).Follows x ⟨0⟩) : Nesting.Exact portions := by
  have all (portions : List (List Placed)) (h : ∀ x ∈ portions, (Nesting.mk 0).Follows x ⟨0⟩) :
      (Nesting.mk 0).Follows portions.flatten ⟨0⟩ := by
    induction portions with
    | nil => rfl
    | cons x rest ih =>
      obtain ⟨hx, hrest⟩ := List.forall_mem_cons.mp h
      exact hx.append (ih hrest)
  refine ⟨(all portions h).depths_eq, ?_, fun i => ?_⟩
  · intro before k e behind hsplit
    have hfollows := all portions h
    rw [hsplit] at hfollows
    exact hfollows.at
  · exact (all _ fun x hx => h x (List.mem_of_mem_take hx)).after_eq

section Runs

variable (c : Setup) (t : Transport)

/-- The playbooks of a run can be placed one after the other. -/
theorem PlaybooksRun.placed {c : Setup} {t : Transport} {stack assigned v : ScopeStack}
    {ps : List Playbook} {m m' : Moment} {trace : List Event}
    (h : PlaybooksRun c t stack assigned ps m v trace m') :
    ∃ blocks : List (List Placed), (∀ block ∈ blocks, c.Activation t maxDepth 0 0 block) ∧
      blocks.flatten.map (·.2) = trace := by
  have hn := playbookWithin_tracked c t maxDepth 0
  induction h with
  | done => exact ⟨[], by simp, rfl⟩
  | passedOver hp hr ih => exact ih
  | halted hp ho =>
    obtain ⟨block, hblock, htrace, -⟩ := Runner.Ensures.of_outcome hn ho 0
    exact ⟨[block], List.forall_mem_singleton.mpr hblock, by simpa using htrace⟩
  | next hp ho hr ih =>
    obtain ⟨block, hblock, htrace, -⟩ := Runner.Ensures.of_outcome hn ho 0
    obtain ⟨blocks, hblocks, hrest⟩ := ih
    refine ⟨block :: blocks, List.forall_mem_cons.mpr ⟨hblock, hblocks⟩, ?_⟩
    rw [List.flatten_cons, List.map_append, htrace, hrest]

/-- Events outside of all playbooks are followed portion by portion: none of them ends a
playbook. -/
theorem Reported.follows_each {call : List Placed → Prop} {portions : List (List Placed)}
    (hr : Reported call 0 portions)
    (hcall : ∀ block, call block → (Nesting.mk 0).Follows block ⟨0⟩)
    (hall : (Nesting.mk 0).Follows portions.flatten ⟨0⟩) :
    ∀ x ∈ portions, (Nesting.mk 0).Follows x ⟨0⟩ := by
  induction portions with
  | nil => simp
  | cons x rest ih =>
    obtain ⟨hx, hrest⟩ := List.forall_mem_cons.mp hr
    have hfirst : (Nesting.mk 0).Follows x ⟨0⟩ := by
      cases hx with
      | @own e he =>
        obtain ⟨⟨hlevel, hpos⟩, -⟩ := hall
        have hends : e.endsPlaybook = false := by
          cases h : e.endsPlaybook with
          | false => rfl
          | true => exact absurd (hpos h) (Nat.lt_irrefl 0)
        exact ⟨⟨hlevel, hpos⟩, (Nesting.depthOf_quiet he hends).symm⟩
      | playbook hb => exact hcall x hb
    have hbehind := Nesting.Follows.drop (a := x) hall
    rw [hfirst.after_eq] at hbehind
    exact List.forall_mem_cons.mpr ⟨hfirst, ih hrest hbehind⟩

/-- The events of a trace can be placed in portions of a kind, and in whatever portions of
that kind they are placed, the tracker is exact. -/
def Nesting.ExactOn (kind : List (List Placed) → Prop) (trace : List Event) : Prop :=
  (∃ portions, kind portions ∧ portions.flatten.map (·.2) = trace) ∧
    ∀ portions, kind portions → portions.flatten.map (·.2) = trace → Nesting.Exact portions

/-- **THE TRACKER IS EXACT**, in every run of playbooks, whose events are those of one
playbook after the other, and in every run that obtains credentials only. -/
theorem tracked_of_runs :
    (∀ values extra ps, Nesting.ExactOn
      (fun blocks => ∀ block ∈ blocks, c.Activation t maxDepth 0 0 block)
      ((c.runAll values extra ps).run t []).trace) ∧
    (∀ cache auths stack depth sent, Nesting.ExactOn
      (Reported (c.Activation t (maxDepth - (depth + 1)) (depth + 1) 0) 0)
      ((c.preview cache auths stack depth).run t sent).trace) := by
  refine ⟨?_, ?_⟩
  · intro values extra ps
    obtain ⟨m, hrun, -⟩ := playbooksRun_runAll c t values extra ps
    refine ⟨hrun.placed, fun blocks hblocks _ => ?_⟩
    exact Nesting.exact_of_follows fun block hb => activation_follows (hblocks block hb)
  · intro cache auths stack depth sent
    have hn := playbookWithin_tracked c t (maxDepth - (depth + 1)) (depth + 1)
    obtain ⟨truth, hreported, htruth, hfollows⟩ :=
      (credentialsRun_resolveAll c t _ stack auths .empty ⟨cache, sent⟩).tracked hn 0
    refine ⟨⟨truth, hreported, htruth⟩, fun portions hr hportions => ?_⟩
    have hcall (block) (hb : c.Activation t (maxDepth - (depth + 1)) (depth + 1) 0 block) :
        (Nesting.mk 0).Follows block ⟨0⟩ := activation_follows hb
    have hall := hr.follows hcall hfollows (fun _ _ => Nat.zero_le _)
      (htruth.trans hportions.symm)
    exact Nesting.exact_of_follows (hr.follows_each hcall hall)

/-- An acquisition fails and takes the playbook that needed it with it: three failures, of
which two end a playbook. -/
example (e : RunError) : (Nesting.mk 0).depths [.playbookStarted "list", .authStarted "key",
    .playbookStarted "key", .prepareFailed e, .authAborted e, .prepareFailed e]
    = [0, 1, 1, 2, 1, 1] := rfl

end Runs
end ApiPlaybook
