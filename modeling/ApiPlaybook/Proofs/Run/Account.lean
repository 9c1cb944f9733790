/-
  ApiPlaybook.Proofs.Run.Account
  ──────────────────────────────
  **WHAT A RUN RETURNS.**

  A run returns the scopes that its playbooks set, of those that finished.  They
  can be read off the events at depth 0, those that are reported while nothing
  but one playbook is open (`outermost`).  The first playbook that fails adds
  nothing to them, and it ends the run: what would come behind it neither
  reports nor sends anything (`accounted_runAll`).
-/
import ApiPlaybook.Proofs.Run.Frames
import ApiPlaybook.Proofs.Run.Unwinding

namespace ApiPlaybook

variable {β : Type}

/-! ## §1. Events at depth 0. -/

/-- What is told of an event that is reported directly inside an outermost playbook. -/
def outermost? (f : String → Event → Option β) : List Frame × Event → Option β
  | ([.playbook name], e) => f name e
  | _ => none

/-- What is told of the events of a trace that are reported there, in order. -/
def outermost (f : String → Event → Option β) (outer : List Frame) (trace : List Event) :
    List β :=
  (framed outer trace).filterMap (outermost? f)

/-- The scope that is set. -/
def Event.setBy (_ : String) : Event → Option Scope
  | .variablesAssigned scope => some scope
  | _ => none

/-- The name of the playbook that finishes. -/
def Event.finished (name : String) : Event → Option String
  | .playbookFinished => some name
  | _ => none

/-- The scopes that are set at depth 0. -/
def outermostScopes (trace : List Event) : ScopeStack := outermost Event.setBy [] trace

/-- The names of the playbooks that finish at depth 0. -/
def finishedPlaybooks (trace : List Event) : List String := outermost Event.finished [] trace

example (s s' : Scope) : outermostScopes [.playbookStarted "p", .authStarted "a",
    .playbookStarted "a", .variablesAssigned s, .playbookFinished, .authFinished,
    .variablesAssigned s', .playbookFinished] = [s'] := rfl

section Outermost

variable (f : String → Event → Option β)

/-- Behind a part that leaves the frames as they were, the outermost events are collected afresh. -/
theorem outermost_append {outer : List Frame} {x y : List Event}
    (hx : framesAfter outer x = outer) :
    outermost f outer (x ++ y) = outermost f outer x ++ outermost f outer y := by
  unfold outermost
  rw [framed_append, hx, List.filterMap_append]

/-- Inside two frames nothing is at depth 0. -/
theorem outermost?_of_two (inner : List Frame) (x y : Frame) (outer : List Frame) (e : Event) :
    outermost? f (inner ++ x :: y :: outer, e) = none := by
  cases inner with
  | nil => cases x <;> rfl
  | cons z inner =>
    cases inner with
    | nil => cases z <;> rfl
    | cons => cases z <;> rfl

/-- Two frames down nothing is outermost, whatever is reported there. -/
theorem outermost_within {n : Nat} {trace : List Event} (h : Within n trace) (x y : Frame)
    (outer : List Frame) : outermost f (x :: y :: outer) trace = [] := by
  refine List.filterMap_eq_nil_iff.mpr fun p hp => ?_
  obtain ⟨inner, hi, -⟩ := h (x :: y :: outer) p hp
  obtain ⟨frames, e⟩ := p
  cases hi
  exact outermost?_of_two f inner x y outer e

end Outermost

/-! ## §2. Playbooks at depth 0. -/

section Rules

variable {c : Setup} {t : Transport} {nested : Runner} {n : Nat} {f : String → Event → Option β}
  {name : String}

/-- All that a credential reports is inside its own frame. -/
theorem CredentialRun.inside (hn : nested.Enclosed t n) {auth : String} {stack : ScopeStack}
    {m : Moment} {o : Outcome ResolvedCredential}
    (h : CredentialRun c t nested stack auth m o) :
    ∃ rest, o.trace = .authStarted auth :: rest ∧ Within n rest := by
  cases h with
  | unknown hm => exact ⟨_, rfl, .single _⟩
  | kept hm hk => exact ⟨_, rfl, .flat (by simp [Event.framesAfter])⟩
  | notAcquired hm hk hs ho =>
    have h : ApiPlaybook.Enclosed n _ := hn.of_outcome ho
    exact ⟨_, rfl, .append h.balanced h.within (.single _)⟩
  | incomplete hm hk ha hf hmissing =>
    have h := ha.enclosed hn
    exact ⟨_, rfl, .append h.balanced h.within (.flat (by simp [Event.framesAfter]))⟩
  | obtained hm hk ha hf hmissing =>
    have h := ha.enclosed hn
    exact ⟨_, rfl, .append h.balanced h.within (.flat (by simp [Event.framesAfter]))⟩

/-- What a credential reports for a playbook counts for nothing in the account of that playbook. -/
theorem CredentialRun.outermost_eq (hn : nested.Enclosed t n)
    (ha : ∀ auth, f name (.authStarted auth) = none) {auth : String} {stack : ScopeStack}
    {m : Moment} {o : Outcome ResolvedCredential}
    (h : CredentialRun c t nested stack auth m o) :
    outermost f [.playbook name] o.trace = [] := by
  obtain ⟨rest, htrace, hwithin⟩ := h.inside hn
  have hrest := outermost_within f hwithin (.credential auth) (.playbook name) []
  rw [htrace]
  show ((([.playbook name], .authStarted auth) : List Frame × Event) ::
    framed [.credential auth, .playbook name] rest).filterMap (outermost? f) = []
  have hfirst : outermost? f ([.playbook name], .authStarted auth) = none := ha auth
  rw [List.filterMap_cons_none hfirst]
  exact hrest

theorem CredentialsRun.outermost_eq (hn : nested.Enclosed t n)
    (ha : ∀ auth, f name (.authStarted auth) = none) {auths : List String} {stack : ScopeStack}
    {result : AuthResult} {m : Moment} {o : Outcome AuthResult}
    (h : CredentialsRun c t nested stack auths result m o) :
    outermost f [.playbook name] o.trace = [] := by
  induction h with
  | done => rfl
  | failed hc => exact hc.outermost_eq hn ha
  | next hc hr ih =>
    rw [outermost_append f ((hc.enclosed hn).balanced _), hc.outermost_eq hn ha, ih]
    rfl

/-- What a stage reports at depth 0 stands behind its credentials. -/
theorem CredentialsRun.outermost_behind (hn : nested.Enclosed t n)
    (ha : ∀ auth, f name (.authStarted auth) = none)
    (hs : ∀ ref, f name (.requestStarted ref) = none) {auths : List String} {stack : ScopeStack}
    {result : AuthResult} {m : Moment} {o : Outcome AuthResult}
    (h : CredentialsRun c t nested stack auths result m o) (ref : RequestRef) (rest : List Event) :
    outermost f [.playbook name] ([.requestStarted ref] ++ o.trace ++ rest)
      = outermost f [.playbook name] rest := by
  have hfirst : outermost f [.playbook name] [.requestStarted ref] = [] :=
    List.filterMap_cons_none (hs ref)
  rw [outermost_append f (Balanced.append (fun _ => rfl) (h.enclosed hn).balanced _),
    outermost_append f rfl, hfirst, h.outermost_eq hn ha]
  rfl

/-- The scopes of a stage that succeeds are those that it announces. -/
theorem StageRun.scopes (hn : nested.Enclosed t n) {playbook : String} {index : Nat} {s : Stage}
    {outer scopes : ScopeStack} {m m' : Moment} {trace : List Event}
    (h : StageRun c t nested playbook index s outer m ⟨some scopes, trace, m'⟩) :
    outermost Event.setBy [.playbook name] trace = scopes := by
  generalize ho : (⟨some scopes, trace, m'⟩ : Outcome ScopeStack) = o at h
  cases h with
  | noRequest hr => cases ho
  | noCredentials hr hc => cases ho
  | @ran ref request credentials trace' m'' o hr hc hrun =>
    cases hrun with
    | done hp hnone hb ha hu h₁ h₂ =>
      cases ho
      exact hc.outermost_behind hn (fun _ => rfl) (fun _ => rfl) ref _
    | _ => cases ho

/-- No stage finishes the playbook that it is in. -/
theorem StageRun.not_finished (hn : nested.Enclosed t n) {playbook : String} {index : Nat}
    {s : Stage} {outer : ScopeStack} {m : Moment} {o : Outcome ScopeStack}
    (h : StageRun c t nested playbook index s outer m o) :
    outermost Event.finished [.playbook name] o.trace = [] := by
  cases h with
  | noRequest hr => rfl
  | noCredentials hr hc => exact hc.outermost_behind hn (fun _ => rfl) (fun _ => rfl) _ _
  | ran hr hc ho =>
    refine (hc.outermost_behind hn (fun _ => rfl) (fun _ => rfl) _ _).trans ?_
    cases ho <;> rfl

/-- The scopes that stages return are those which their own events set, in that order. -/
theorem StagesRun.scopes (hn : nested.Enclosed t n) {playbook : String}
    {stack assigned scopes : ScopeStack} {index : Nat} {stages : List Stage} {m m' : Moment}
    {trace : List Event} (h : StagesRun c t nested playbook stack index assigned stages m
      ⟨some scopes, trace, m'⟩) :
    assigned ++ outermost Event.setBy [.playbook name] trace = scopes := by
  generalize ho : (⟨some scopes, trace, m'⟩ : Outcome ScopeStack) = o at h
  induction h generalizing trace with
  | done =>
    cases ho
    exact List.append_nil _
  | failed h => cases ho
  | next hs hr ih =>
    cases ho
    have hframes : framesAfter [.playbook name] _ = [.playbook name] := (hs.enclosed hn).frames _
    rw [outermost_append _ hframes, hs.scopes hn, ← List.append_assoc]
    exact ih rfl

/-- No stage ends its playbook as finished; that is left to the playbook. -/
theorem StagesRun.not_finished (hn : nested.Enclosed t n) {playbook : String}
    {stack assigned : ScopeStack} {index : Nat} {stages : List Stage} {m : Moment}
    {o : Outcome ScopeStack} (h : StagesRun c t nested playbook stack index assigned stages m o) :
    outermost Event.finished [.playbook name] o.trace = [] := by
  induction h with
  | done => rfl
  | failed hs => exact hs.not_finished hn
  | next hs hr ih =>
    have hframes : framesAfter [.playbook name] _ = [.playbook name] := (hs.enclosed hn).frames _
    rw [outermost_append _ hframes, hs.not_finished hn, ih]
    rfl

/-- A playbook that finishes returns the scopes that are set at depth 0. -/
theorem PlaybookRun.scopes (hn : nested.Enclosed t n) {stages : List Stage}
    {stack scopes : ScopeStack} {m m' : Moment} {trace : List Event}
    (h : PlaybookRun c t nested name stages stack m ⟨some scopes, trace, m'⟩) :
    outermostScopes trace = scopes ∧ finishedPlaybooks trace = [name] := by
  cases h with
  | @finished _ trace _ hs =>
    have hframes : framesAfter [.playbook name] trace = [.playbook name] :=
      (hs.enclosed hn).frames _
    constructor
    · show outermost Event.setBy [.playbook name] (trace ++ [.playbookFinished]) = scopes
      rw [outermost_append _ hframes]
      exact (List.append_nil _).trans (hs.scopes hn)
    · show outermost Event.finished [.playbook name] (trace ++ [.playbookFinished]) = [name]
      rw [outermost_append _ hframes, hs.not_finished hn]
      rfl

/-- A playbook that fails is not told to have finished. -/
theorem PlaybookRun.not_finished (hn : nested.Enclosed t n) {stages : List Stage}
    {stack : ScopeStack} {m m' : Moment} {trace : List Event}
    (h : PlaybookRun c t nested name stages stack m ⟨none, trace, m'⟩) :
    finishedPlaybooks trace = [] := by
  cases h with
  | @failed trace _ hs => exact hs.not_finished hn

end Rules

/-! ## §3. Lists of playbooks. -/

/-- Playbooks run in turn, all of which finish; those without stages are passed over. -/
inductive PlaybooksFinish (c : Setup) (t : Transport) (stack : ScopeStack) :
    ScopeStack → List Playbook → Moment → ScopeStack → List Event → Moment → Prop where
  | done {assigned : ScopeStack} {m : Moment} :
      PlaybooksFinish c t stack assigned [] m assigned [] m
  | passedOver {assigned v : ScopeStack} {p : Playbook} {rest : List Playbook} {m m' : Moment}
      {trace : List Event} (hp : p.stages.isEmpty = true)
      (hr : PlaybooksFinish c t stack assigned rest m v trace m') :
      PlaybooksFinish c t stack assigned (p :: rest) m v trace m'
  | next {assigned scopes v : ScopeStack} {p : Playbook} {rest : List Playbook}
      {m m' m'' : Moment} {trace trace' : List Event} (hp : p.stages.isEmpty = false)
      (hn : (c.playbookAt 0 p.name p.stages (stack ++ assigned)).outcome t m
        = ⟨some scopes, trace, m'⟩)
      (hr : PlaybooksFinish c t stack (assigned ++ scopes) rest m' v trace' m'') :
      PlaybooksFinish c t stack assigned (p :: rest) m v (trace ++ trace') m''

/-- The names of the playbooks with stages. -/
def namesToRun (ps : List Playbook) : List String :=
  (ps.filter fun p => !p.stages.isEmpty).map (·.name)

/-- The playbooks with stages are counted list by list. -/
theorem namesToRun_append (ps qs : List Playbook) :
    namesToRun (ps ++ qs) = namesToRun ps ++ namesToRun qs := by
  unfold namesToRun
  rw [List.filter_append, List.map_append]

/-- A playbook with a stage counts under its name. -/
theorem namesToRun_cons {p : Playbook} (hp : p.stages.isEmpty = false) (ps : List Playbook) :
    namesToRun (p :: ps) = p.name :: namesToRun ps := by
  simp [namesToRun, hp]

section Playbooks

variable {c : Setup} {t : Transport} {stack assigned v : ScopeStack} {ps : List Playbook}
  {m m' : Moment} {trace : List Event}

/-- A playbook at depth 0 runs with playbooks one level deeper. -/
theorem playbookRun_playbookAt (c : Setup) (t : Transport) (name : String) (stages : List Stage)
    (stack : ScopeStack) (m : Moment) :
    PlaybookRun c t (c.playbookWithin (maxDepth - 1) 1) name stages stack m
      ((c.playbookAt 0 name stages stack).outcome t m) :=
  playbookRun_playbookWithin c t (maxDepth - 1) 0 name stages stack m

/-- Behind a balanced part the finished playbooks are counted afresh. -/
theorem finishedPlaybooks_append {x y : List Event} (hx : Balanced x) :
    finishedPlaybooks (x ++ y) = finishedPlaybooks x ++ finishedPlaybooks y :=
  outermost_append _ (hx [])

theorem outermostScopes_append {x y : List Event} (hx : Balanced x) :
    outermostScopes (x ++ y) = outermostScopes x ++ outermostScopes y :=
  outermost_append _ (hx [])

/-- A playbook at depth 0 that finishes is one that is told of. -/
theorem outermost_of_finished {name : String} {stages : List Stage} {scopes : ScopeStack}
    (hn : (c.playbookAt 0 name stages stack).outcome t m = ⟨some scopes, trace, m'⟩) :
    outermostScopes trace = scopes ∧ finishedPlaybooks trace = [name] := by
  have h := playbookRun_playbookAt c t name stages stack m
  rw [hn] at h
  exact h.scopes (playbookWithin_enclosed c t (maxDepth - 1) 1)

/-- A failed playbook of the list leaves nothing finished, at whatever stage it failed. -/
theorem outermost_of_failed {name : String} {stages : List Stage}
    (hn : (c.playbookAt 0 name stages stack).outcome t m = ⟨none, trace, m'⟩) :
    finishedPlaybooks trace = [] := by
  have h := playbookRun_playbookAt c t name stages stack m
  rw [hn] at h
  exact h.not_finished (playbookWithin_enclosed c t (maxDepth - 1) 1)

namespace PlaybooksFinish

/-- Playbooks that all finish are a run in particular. -/
theorem run (h : PlaybooksFinish c t stack assigned ps m v trace m') :
    PlaybooksRun c t stack assigned ps m v trace m' := by
  induction h with
  | done => exact .done
  | passedOver hp hr ih => exact .passedOver hp ih
  | next hp hn hr ih => exact .next hp hn ih

/-- None of their events is a failure, nor does it close anything. -/
theorem clean (h : PlaybooksFinish c t stack assigned ps m v trace m') : Clean trace := by
  induction h with
  | done => exact .nil
  | passedOver hp hr ih => exact ih
  | next hp hn hr ih =>
    have hc : Clean _ := (playbookAt_unwinds c t 0).done hn
    exact hc.append ih

theorem balanced (h : PlaybooksFinish c t stack assigned ps m v trace m') : Balanced trace :=
  h.run.enclosed.balanced

/-- All of them that have stages are told to have finished, in their order. -/
theorem finished (h : PlaybooksFinish c t stack assigned ps m v trace m') :
    finishedPlaybooks trace = namesToRun ps := by
  induction h with
  | done => rfl
  | @passedOver assigned v p rest m m' trace hp hr ih =>
    rw [ih]
    simp [namesToRun, hp]
  | next hp hn hr ih =>
    have hb : Balanced _ := ((playbookAt_enclosed c t 0).of_outcome hn).balanced
    rw [finishedPlaybooks_append hb, (outermost_of_finished hn).2, ih, namesToRun_cons hp]
    rfl

/-- What the playbooks set is added to what was set before. -/
theorem scopes (h : PlaybooksFinish c t stack assigned ps m v trace m') :
    v = assigned ++ outermostScopes trace := by
  induction h with
  | done => exact (List.append_nil _).symm
  | passedOver hp hr ih => exact ih
  | next hp hn hr ih =>
    have hb : Balanced _ := ((playbookAt_enclosed c t 0).of_outcome hn).balanced
    rw [outermostScopes_append hb, (outermost_of_finished hn).1, ih, List.append_assoc]

/-- More playbooks may be run behind those that finished. -/
theorem append (h : PlaybooksFinish c t stack assigned ps m v trace m') {rest : List Playbook}
    {v' : ScopeStack} {trace' : List Event} {m'' : Moment}
    (hr : PlaybooksRun c t stack v rest m' v' trace' m'') :
    PlaybooksRun c t stack assigned (ps ++ rest) m v' (trace ++ trace') m'' := by
  induction h with
  | done => exact hr
  | passedOver hp _ ih => exact .passedOver hp (ih hr)
  | next hp hn _ ih =>
    rw [List.append_assoc]
    exact .next hp hn (ih hr)

end PlaybooksFinish

/-- A run stops behind the first playbook that fails, if there is one. -/
theorem PlaybooksRun.split (h : PlaybooksRun c t stack assigned ps m v trace m') :
    ∃ finished rest before m₁ after, ps = finished ++ rest ∧ trace = before ++ after ∧
      PlaybooksFinish c t stack assigned finished m v before m₁ ∧
      ((rest = [] ∧ after = [] ∧ m' = m₁) ∨
        ∃ p later, rest = p :: later ∧ p.stages.isEmpty = false ∧
          (c.playbookAt 0 p.name p.stages (stack ++ v)).outcome t m₁ = ⟨none, after, m'⟩) := by
  induction h with
  | @done assigned m => exact ⟨[], [], [], m, [], rfl, rfl, .done, .inl ⟨rfl, rfl, rfl⟩⟩
  | @passedOver assigned v p rest m m' trace hp hr ih =>
    obtain ⟨finished, rest', before, m₁, after, rfl, rfl, hf, hend⟩ := ih
    exact ⟨p :: finished, rest', before, m₁, after, rfl, rfl, .passedOver hp hf, hend⟩
  | @halted assigned p rest m m' trace hp hn =>
    exact ⟨[], p :: rest, [], m, trace, rfl, rfl, .done, .inr ⟨p, rest, rfl, hp, hn⟩⟩
  | @next assigned scopes v p rest m m' m'' trace trace' hp hn hr ih =>
    obtain ⟨finished, rest', before, m₁, after, rfl, rfl, hf, hend⟩ := ih
    exact ⟨p :: finished, rest', trace ++ before, m₁, after, rfl, by rw [List.append_assoc],
      .next hp hn hf, hend⟩

/-- Everything that a run does is fixed by where it starts. -/
theorem PlaybooksRun.unique (h : PlaybooksRun c t stack assigned ps m v trace m')
    {v' : ScopeStack} {trace' : List Event} {m'' : Moment}
    (h' : PlaybooksRun c t stack assigned ps m v' trace' m'') :
    v' = v ∧ trace' = trace ∧ m'' = m' := by
  induction h generalizing trace' with
  | done =>
    cases h' with
    | done => exact ⟨rfl, rfl, rfl⟩
  | passedOver hp hr ih => exact ih (h'.of_passedOver hp)
  | halted hp hn => exact h'.of_halted hp hn
  | next hp hn hr ih =>
    obtain ⟨after, rfl, hr'⟩ := h'.of_next hp hn
    obtain ⟨rfl, rfl, rfl⟩ := ih hr'
    exact ⟨rfl, rfl, rfl⟩

end Playbooks

/-! ## §4. Whole runs. -/

/-- What the value and the trace of a run tell of its playbooks, `run` being the run of
any list of playbooks in the same circumstances. -/
structure Accounted (run : List Playbook → Ran ScopeStack) (ps : List Playbook) : Prop where
  /-- A failure is reported exactly if some playbook with stages does not finish. -/
  failure_iff : (∃ e ∈ (run ps).trace, e.isFailure = true) ↔
    finishedPlaybooks (run ps).trace ≠ namesToRun ps
  /-- The playbooks up to the first that fails all finish, and what they set is the value;
  the one that fails only adds its own events, and those behind it nothing at all. -/
  split : ∃ finished rest, ps = finished ++ rest ∧
    finishedPlaybooks (run finished).trace = namesToRun finished ∧
    (∀ e ∈ (run finished).trace, e.isFailure = false) ∧
    (run ps).value = outermostScopes (run finished).trace ∧
    (run ps).value = (run finished).value ∧
    (rest = [] ∨ ∃ p later block, rest = p :: later ∧ p.stages.isEmpty = false ∧
      (run ps).trace = (run finished).trace ++ block ∧ finishedPlaybooks block = [] ∧
      (∃ e ∈ block, e.isFailure = true) ∧
      (run (finished ++ [p])).trace = (run ps).trace ∧
      (run (finished ++ [p])).sent = (run ps).sent)

/-- A run of playbooks is what the rules say. -/
theorem PlaybooksRun.runAll_eq {c : Setup} {t : Transport} {values : RuntimeValues}
    {extra v : ScopeStack} {ps : List Playbook} {trace : List Event} {m : Moment}
    (h : PlaybooksRun c t ([(c.bundle.importEnvironment values).scope] ++ extra) [] ps ⟨.empty, []⟩
      v trace m) :
    ((c.runAll values extra ps).run t []).value = v ∧
      ((c.runAll values extra ps).run t []).trace = trace ∧
      ((c.runAll values extra ps).run t []).sent = m.sent := by
  obtain ⟨m', h', hsent⟩ := playbooksRun_runAll c t values extra ps
  obtain ⟨hv, htrace, rfl⟩ := h.unique h'
  exact ⟨hv, htrace, hsent⟩

/-- **A RUN RETURNS WHAT ITS FINISHED PLAYBOOKS SET**: whatever the bundle, the API, the
values, the scopes around the run, the playbooks and the transport. -/
theorem accounted_runAll (c : Setup) (t : Transport) (values : RuntimeValues)
    (extra : ScopeStack) (ps : List Playbook) :
    Accounted (fun qs => (c.runAll values extra qs).run t []) ps := by
  obtain ⟨m, hrun, hsent⟩ := playbooksRun_runAll c t values extra ps
  obtain ⟨finished, rest, before, m₁, after, rfl, htrace, hf, hend⟩ := hrun.split
  obtain ⟨hvalue, rfl, -⟩ := hf.run.runAll_eq
  have hclean := hf.clean.isFailure_eq
  have hscopes := hf.scopes
  rw [List.nil_append] at hscopes
  rcases hend with ⟨rfl, rfl, -⟩ | ⟨p, later, rfl, hp, hn⟩
  · -- all playbooks finish, and there is nothing behind them
    rw [List.append_nil] at hvalue hscopes ⊢
    refine ⟨⟨?_, fun hne => absurd hf.finished hne⟩, finished, [], (List.append_nil _).symm,
      hf.finished, hclean, hscopes, rfl, .inl rfl⟩
    rintro ⟨e, he, hfailure⟩
    rw [hclean e he] at hfailure
    cases hfailure
  · have hfails : ∃ e ∈ after, e.isFailure = true := ((playbookAt_unwinds c t 0).failed hn).fails
    have hnone := outermost_of_failed hn
    -- the run of the playbooks up to the one that fails goes the same way
    obtain ⟨-, htrace', hsent'⟩ := (hf.append (.halted hp hn)).runAll_eq
    refine ⟨⟨fun _ => ?_, fun _ => ?_⟩, finished, p :: later, rfl, hf.finished, hclean, hscopes,
      hvalue.symm, .inr ⟨p, later, after, rfl, hp, htrace, hnone, hfails, htrace'.trans htrace.symm,
        hsent'.trans hsent.symm⟩⟩
    · rw [htrace, finishedPlaybooks_append hf.balanced, hf.finished, hnone, namesToRun_append,
        namesToRun_cons hp]
      simp
    · obtain ⟨e, he, hfailure⟩ := hfails
      rw [htrace]
      exact ⟨e, List.mem_append_right _ he, hfailure⟩

end ApiPlaybook
