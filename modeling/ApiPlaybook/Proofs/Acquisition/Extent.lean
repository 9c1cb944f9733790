/-
  ApiPlaybook.Proofs.Acquisition.Extent
  ─────────────────────────────────────
  **HOW LONG A RUN CAN BE.**

  A stage acquires the credentials that its request refers to, each by a
  playbook one level deeper, and the levels come to an end.  So the number of
  events of a run has a bound that is computed from the bundle and the playbooks
  alone (`playbookExtent`): no environment, no description of the API and no
  answer of a server makes a run longer.
-/
import Mathlib.Algebra.Ring.Nat
import ApiPlaybook.Proofs.Acquisition.Needs

namespace ApiPlaybook

/-! ## §1. The bound. -/

namespace Bundle

variable (b : Bundle)

/-- The references to credentials of the request of a stage. -/
def stageReferences (s : Stage) : List String :=
  ((s.ref.bind b.request?).map (·.references)).getD []

/-- The stages by which the credential of a reference is acquired. -/
def acquisitionStages (auth : String) : List Stage :=
  (((b.key? auth).bind b.method?).bind (·.stages)).getD []

/-- A bound on the events for a reference, from one for playbooks one level deeper. -/
def referenceExtent (nested : List Stage → Nat) (auth : String) : Nat :=
  3 + nested (b.acquisitionStages auth)

/-- A bound on the events of a stage. -/
def stageExtent (nested : List Stage → Nat) (s : Stage) : Nat :=
  6 + ((b.stageReferences s).map (b.referenceExtent nested)).sum

/-- A bound on the events of a playbook with some levels left. -/
def playbookExtent : Nat → List Stage → Nat
  | 0, _ => 2
  | levels + 1, stages => 2 + (stages.map (b.stageExtent (playbookExtent levels))).sum

/-- A stage refers to what its request refers to. -/
theorem stageReferences_eq {s : Stage} {ref : RequestRef} {request : Request}
    (hs : s.ref = some ref) (hr : b.request? ref = some request) :
    b.stageReferences s = request.references := by
  unfold stageReferences
  rw [hs, Option.bind_some, hr]
  rfl

/-- A reference with a method that has stages is acquired by these stages. -/
theorem acquisitionStages_eq {auth : String} {key : CredentialKey} {method : CredentialMethod}
    {stages : List Stage} (hk : b.key? auth = some key) (hm : b.method? key = some method)
    (hs : method.stages = some stages) : b.acquisitionStages auth = stages := by
  unfold acquisitionStages
  rw [hk, Option.bind_some, hm, Option.bind_some, hs]
  rfl

end Bundle

/-! ## §2. Runs keep to the bound. -/

/-- From one moment to a later one: at most so many events, and no more requests sent
than events reported. -/
structure Bounded (bound : Nat) (m : Moment) (trace : List Event) (m' : Moment) : Prop where
  length_le : trace.length ≤ bound
  sent_le : m'.sent.length ≤ m.sent.length + trace.length

namespace Bounded

variable {bound bound' : Nat} {m m' m'' : Moment} {x y : List Event}

/-- A larger bound is a bound as well. -/
theorem mono (h : Bounded bound m x m') (hb : bound ≤ bound') : Bounded bound' m x m' :=
  ⟨Nat.le_trans h.length_le hb, h.sent_le⟩

/-- Events without a request that is sent. -/
theorem events (m : Moment) (x : List Event) : Bounded x.length m x m :=
  ⟨Nat.le_refl _, Nat.le_add_right _ _⟩

/-- The bounds of two parts add up. -/
theorem append (h : Bounded bound m x m') (h' : Bounded bound' m' y m'') :
    Bounded (bound + bound') m (x ++ y) m'' := by
  obtain ⟨hlength, hsent⟩ := h
  obtain ⟨hlength', hsent'⟩ := h'
  constructor
  · show (x ++ y).length ≤ bound + bound'
    rw [List.length_append]
    omega
  · show m''.sent.length ≤ m.sent.length + (x ++ y).length
    rw [List.length_append]
    omega

/-- Events before a trace and behind it. -/
theorem between (x : List Event) (h : Bounded bound m y m') (z : List Event) :
    Bounded (x.length + bound + z.length) m (x ++ y ++ z) m' :=
  ((events m x).append h).append (events m' z)

end Bounded

section Rules

variable {c : Setup} {t : Transport} {nested : Runner} {extent : List Stage → Nat}

/-- The playbooks that a runner runs keep to a bound. -/
def Runner.Bounded (nested : Runner) (t : Transport) (extent : List Stage → Nat) : Prop :=
  nested.Ensures t fun _ stages m o => ApiPlaybook.Bounded (extent stages) m o.trace o.after

/-- The scopes of a credential cost what its stages may cost, and nothing where it has none. -/
theorem AcquisitionRun.bounded (hn : nested.Bounded t extent) {auth : String}
    {key : CredentialKey} {method : CredentialMethod} {stack scopes : ScopeStack} {m m' : Moment}
    {trace : List Event} (hk : c.bundle.key? auth = some key)
    (hm : c.bundle.method? key = some method)
    (h : AcquisitionRun t nested auth method stack m scopes trace m') :
    Bounded (extent (c.bundle.acquisitionStages auth)) m trace m' := by
  cases h with
  | direct hs => exact (Bounded.events m []).mono (Nat.zero_le _)
  | staged hs ho =>
    rw [c.bundle.acquisitionStages_eq hk hm hs]
    exact hn.of_outcome ho

/-- A credential adds at most three events to those of its stages. -/
theorem CredentialRun.bounded (hn : nested.Bounded t extent) {auth : String}
    {stack : ScopeStack} {m : Moment} {o : Outcome ResolvedCredential}
    (h : CredentialRun c t nested stack auth m o) :
    Bounded (c.bundle.referenceExtent extent auth) m o.trace o.after := by
  -- one event before the stages of the method, and at most two behind them
  have ending {trace last : List Event} {m' : Moment}
      (h : Bounded (extent (c.bundle.acquisitionStages auth)) m trace m')
      (hl : last.length ≤ 2) :
      Bounded (c.bundle.referenceExtent extent auth) m
        ([.authStarted auth] ++ trace ++ last) m' := by
    refine (h.between [.authStarted auth] last).mono ?_
    unfold Bundle.referenceExtent
    simp only [List.length_singleton]
    omega
  have nothing : Bounded (extent (c.bundle.acquisitionStages auth)) m [] m :=
    (Bounded.events m []).mono (Nat.zero_le _)
  cases h with
  | unknown hm => exact ending nothing (by simp)
  | kept hm hk => exact ending nothing (Nat.le_refl 2)
  | notAcquired hm hk hs ho =>
    obtain ⟨hauth, hmethod⟩ := Setup.method_eq_ok hm
    have h := hn.of_outcome ho
    rw [← c.bundle.acquisitionStages_eq hauth hmethod hs] at h
    exact ending h (by simp)
  | incomplete hm hk ha hf hmissing =>
    obtain ⟨hauth, hmethod⟩ := Setup.method_eq_ok hm
    exact ending (ha.bounded hn hauth hmethod) (Nat.le_refl 2)
  | @obtained key credential method scopes trace m' filled hm hk ha hf hmissing =>
    obtain ⟨hauth, hmethod⟩ := Setup.method_eq_ok hm
    have h : Bounded (c.bundle.referenceExtent extent auth) m ([.authStarted auth] ++ trace ++
        [.credentialSubstituted auth filled.value scopes filled.found [], .authFinished]) m' :=
      ending (ha.bounded hn hauth hmethod) (Nat.le_refl 2)
    exact ⟨h.length_le, h.sent_le⟩

/-- The credentials of a request cost the sum of what each may cost. -/
theorem CredentialsRun.bounded (hn : nested.Bounded t extent) {auths : List String}
    {stack : ScopeStack} {result : AuthResult} {m : Moment} {o : Outcome AuthResult}
    (h : CredentialsRun c t nested stack auths result m o) :
    Bounded (auths.map (c.bundle.referenceExtent extent)).sum m o.trace o.after := by
  induction h with
  | done => exact .events _ []
  | failed h =>
    refine (h.bounded hn).mono ?_
    rw [List.map_cons, List.sum_cons]
    omega
  | next h hr ih =>
    rw [List.map_cons, List.sum_cons]
    exact (h.bounded hn).append ih

/-- A request has at most five events of its own. -/
theorem RequestRun.bounded {playbook : String} {index : Nat} {s : Stage} {outer : ScopeStack}
    {request : Request} {credentials : AuthResult} {m : Moment} {o : Outcome ScopeStack}
    (h : RequestRun c t playbook index s outer request credentials m o) :
    Bounded 5 m o.trace o.after := by
  cases h <;> exact ⟨by simp, by simp [Moment.sending]⟩

/-- A stage costs its credentials, its request and one event to start with. -/
theorem StageRun.bounded (hn : nested.Bounded t extent) {playbook : String} {index : Nat}
    {s : Stage} {outer : ScopeStack} {m : Moment} {o : Outcome ScopeStack}
    (h : StageRun c t nested playbook index s outer m o) :
    Bounded (c.bundle.stageExtent extent s) m o.trace o.after := by
  unfold Bundle.stageExtent
  cases h with
  | noRequest hr =>
    -- one event, whatever the references are
    refine (Bounded.events m _).mono ?_
    rw [List.length_singleton]
    omega
  | @noCredentials ref request trace m' hr hc =>
    obtain ⟨hs, hrequest⟩ := stageRequest_eq_ok c hr
    rw [c.bundle.stageReferences_eq hs hrequest]
    refine ((hc.bounded hn).between [.requestStarted ref] _).mono ?_
    simp only [List.length_singleton]
    omega
  | @ran ref request credentials trace m' o hr hc ho =>
    obtain ⟨hs, hrequest⟩ := stageRequest_eq_ok c hr
    rw [c.bundle.stageReferences_eq hs hrequest]
    -- one event to start with, and at most five for the request itself
    refine (((Bounded.events m [.requestStarted ref]).append (hc.bounded hn)).append
      ho.bounded).mono ?_
    rw [List.length_singleton]
    omega

/-- The stages of a playbook cost the sum of what each may cost. -/
theorem StagesRun.bounded (hn : nested.Bounded t extent) {playbook : String}
    {stack assigned : ScopeStack} {index : Nat} {stages : List Stage} {m : Moment}
    {o : Outcome ScopeStack} (h : StagesRun c t nested playbook stack index assigned stages m o) :
    Bounded (stages.map (c.bundle.stageExtent extent)).sum m o.trace o.after := by
  induction h with
  | done => exact .events _ []
  | failed h =>
    refine (h.bounded hn).mono ?_
    rw [List.map_cons, List.sum_cons]
    omega
  | next h hr ih =>
    rw [List.map_cons, List.sum_cons]
    exact (h.bounded hn).append ih

end Rules

section Playbooks

variable (c : Setup) (t : Transport)

/-- By induction on the levels that are left, a playbook keeps to the extent that is computed for
them. -/
theorem playbookWithin_bounded (levels depth : Nat) :
    (c.playbookWithin levels depth).Bounded t (c.bundle.playbookExtent levels) := by
  refine playbookWithin_induction c t
    (P := fun levels _ stages m o =>
      Bounded (c.bundle.playbookExtent levels stages) m o.trace o.after)
    ?_ ?_ levels depth
  · intro name stages m
    exact .events m [.playbookStarted name, .playbookAborted .tooDeep]
  · -- the two events of the playbook itself, and those of its stages
    intro levels depth ih name stages stack m o h
    unfold Bundle.playbookExtent
    cases h with
    | failed hs =>
      refine ((Bounded.events m [.playbookStarted name]).append (hs.bounded ih)).mono ?_
      rw [List.length_singleton]
      omega
    | finished hs =>
      refine ((hs.bounded ih).between [.playbookStarted name] [.playbookFinished]).mono ?_
      simp only [List.length_singleton]
      omega

/-- A bound on the events of a run of playbooks. -/
def Bundle.runExtent (b : Bundle) (ps : List Playbook) : Nat :=
  (ps.map fun p => b.playbookExtent maxDepth p.stages).sum

/-- A run keeps to the sum of the extents of its playbooks. -/
theorem PlaybooksRun.bounded {c : Setup} {t : Transport} {stack assigned v : ScopeStack}
    {ps : List Playbook} {m m' : Moment} {trace : List Event}
    (h : PlaybooksRun c t stack assigned ps m v trace m') :
    Bounded (c.bundle.runExtent ps) m trace m' := by
  have playbook := playbookWithin_bounded c t maxDepth 0
  unfold Bundle.runExtent
  induction h with
  | done => exact .events _ []
  | passedOver hp hr ih =>
    refine ih.mono ?_
    rw [List.map_cons, List.sum_cons]
    omega
  | halted hp hn =>
    refine (playbook.of_outcome hn).mono ?_
    rw [List.map_cons, List.sum_cons]
    omega
  | next hp hn hr ih =>
    rw [List.map_cons, List.sum_cons]
    exact (playbook.of_outcome hn).append ih

end Playbooks

end ApiPlaybook
