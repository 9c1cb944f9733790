/-
  ApiPlaybook.Proofs.Run.Frames
  ─────────────────────────────
  **WHAT IS OPEN WHEN AN EVENT IS REPORTED.**

  Playbooks and credentials are opened and closed by their events, and a stage
  that fails closes its playbook without an event for that.  So the frames that
  are open at an event can be followed from the events alone (`framed`).

      what a playbook or a credential opens, it closes (`Balanced`);
      with some levels left, at most one playbook more than levels is open
      inside the frames around it (`Within`).
-/
import ApiPlaybook.Proofs.Run.Rules

namespace ApiPlaybook

/-! ## §1. Frames. -/

/-- Something that is open. -/
inductive Frame where
  | playbook (name : String)
  | credential (auth : String)
deriving DecidableEq, Inhabited

def Frame.isPlaybook : Frame → Bool
  | .playbook _ => true
  | .credential _ => false

/-- The frames that are open behind an event, the innermost first. -/
def Event.framesAfter (outer : List Frame) : Event → List Frame
  | .playbookStarted name => .playbook name :: outer
  | .authStarted auth => .credential auth :: outer
  | .playbookFinished | .authFinished => outer.tail
  | .playbookAborted _ | .authAborted _ | .prepareFailed _ | .transportFailed _
  | .processingFailed _ => outer.tail
  | _ => outer

/-- The frames that are open behind a trace. -/
def framesAfter (outer : List Frame) (trace : List Event) : List Frame :=
  trace.foldl Event.framesAfter outer

/-- The events of a trace, each with the frames that are open before it. -/
def framed (outer : List Frame) : List Event → List (List Frame × Event)
  | [] => []
  | e :: rest => (outer, e) :: framed (e.framesAfter outer) rest

/-- How many of some frames are playbooks. -/
def openPlaybooks (frames : List Frame) : Nat := frames.countP Frame.isPlaybook

@[simp] theorem framesAfter_nil (outer : List Frame) : framesAfter outer [] = outer := rfl

@[simp] theorem framesAfter_cons (outer : List Frame) (e : Event) (trace : List Event) :
    framesAfter outer (e :: trace) = framesAfter (e.framesAfter outer) trace := rfl

/-- The frames are followed through one part of a trace and then the other. -/
theorem framesAfter_append (outer : List Frame) (a b : List Event) :
    framesAfter outer (a ++ b) = framesAfter (framesAfter outer a) b :=
  List.foldl_append

/-- Behind a part of a trace the frames are those it leaves. -/
theorem framed_append (outer : List Frame) (a b : List Event) :
    framed outer (a ++ b) = framed outer a ++ framed (framesAfter outer a) b := by
  induction a generalizing outer with
  | nil => rfl
  | cons e rest ih => simp only [List.cons_append, framed, framesAfter_cons, ih]

example : framesAfter [] [.playbookStarted "p", .authStarted "a", .authFinished]
    = [.playbook "p"] := rfl

/-- An event with its frames is an event of the trace. -/
theorem event_mem_of_framed {outer frames : List Frame} {e : Event} {trace : List Event}
    (h : (frames, e) ∈ framed outer trace) : e ∈ trace := by
  induction trace generalizing outer with
  | nil => cases h
  | cons e' rest ih =>
    unfold framed at h
    rcases List.mem_cons.mp h with h | h
    · cases h
      exact List.mem_cons_self
    · exact List.mem_cons_of_mem e' (ih h)

/-! ## §2. Balanced traces. -/

/-- The trace closes what it opens. -/
def Balanced (trace : List Event) : Prop := ∀ outer, framesAfter outer trace = outer

/-- The trace closes what it opens and the frame around it. -/
def ClosesOne (trace : List Event) : Prop := ∀ outer, framesAfter outer trace = outer.tail

theorem Balanced.nil : Balanced [] := fun _ => rfl

theorem Balanced.append {a b : List Event} (ha : Balanced a) (hb : Balanced b) :
    Balanced (a ++ b) := by
  intro outer
  rw [framesAfter_append, ha, hb]

/-- A balanced part in front of one that closes a frame. -/
theorem Balanced.append_closesOne {a b : List Event} (ha : Balanced a) (hb : ClosesOne b) :
    ClosesOne (a ++ b) := by
  intro outer
  rw [framesAfter_append, ha, hb]

/-- A frame that is opened first and closed last. -/
theorem ClosesOne.balanced {trace : List Event} (h : ClosesOne trace) {e : Event} {f : Frame}
    (he : ∀ outer, e.framesAfter outer = f :: outer) : Balanced ([e] ++ trace) := by
  intro outer
  rw [framesAfter_append, h]
  show (e.framesAfter outer).tail = outer
  rw [he]
  rfl

/-! ## §3. Traces within a number of playbooks. -/

/-- At each event the frames around the trace are still open, and inside them at
most `n` playbooks. -/
def Within (n : Nat) (trace : List Event) : Prop :=
  ∀ outer, ∀ p ∈ framed outer trace, ∃ inner, p.1 = inner ++ outer ∧ openPlaybooks inner ≤ n

theorem Within.nil {n : Nat} : Within n [] := by
  intro outer p hp
  cases hp

/-- One event by itself is reported with nothing open inside. -/
theorem Within.single {n : Nat} (e : Event) : Within n [e] := by
  intro outer p hp
  cases List.mem_singleton.mp hp
  exact ⟨[], rfl, Nat.zero_le n⟩

/-- A balanced part leaves the frames as they were for what comes behind it. -/
theorem Within.append {n : Nat} {a b : List Event} (hb : Balanced a) (ha : Within n a)
    (h : Within n b) : Within n (a ++ b) := by
  intro outer p hp
  rw [framed_append, hb] at hp
  rcases List.mem_append.mp hp with hp | hp
  · exact ha outer p hp
  · exact h outer p hp

/-- Only the last event changes the frames. -/
theorem Within.flat {n : Nat} {trace : List Event}
    (h : ∀ e ∈ trace.dropLast, ∀ outer, e.framesAfter outer = outer) : Within n trace := by
  induction trace with
  | nil => exact .nil
  | cons e rest ih =>
    cases rest with
    | nil => exact .single e
    | cons e' rest' =>
      have hb : Balanced [e] := h e List.mem_cons_self
      exact .append hb (.single e) (ih fun d hd => h d (List.mem_cons_of_mem e hd))

/-- A frame opened in front of a trace is one more around it. -/
theorem Within.opened {n : Nat} {e : Event} {f : Frame} {trace : List Event}
    (he : ∀ outer, e.framesAfter outer = f :: outer) (h : Within n trace) :
    Within (n + openPlaybooks [f]) ([e] ++ trace) := by
  intro outer p hp
  rcases List.mem_cons.mp hp with rfl | hp
  · exact ⟨[], rfl, Nat.zero_le _⟩
  · -- the new frame is around the rest of the trace, hence the last of the inner ones
    rw [he outer] at hp
    obtain ⟨inner, hi, hn⟩ := h (f :: outer) p hp
    refine ⟨inner ++ [f], by rw [hi, List.append_assoc]; rfl, ?_⟩
    show (inner ++ [f]).countP Frame.isPlaybook ≤ n + [f].countP Frame.isPlaybook
    rw [List.countP_append]
    unfold openPlaybooks at hn
    omega

/-- The start of a playbook takes one more level. -/
theorem Within.playbook {n : Nat} {trace : List Event} (h : Within n trace) (name : String) :
    Within (n + 1) ([.playbookStarted name] ++ trace) :=
  Within.opened (f := .playbook name) (fun _ => rfl) h

/-- The start of a credential takes none, since only playbooks are counted. -/
theorem Within.credential {n : Nat} {trace : List Event} (h : Within n trace) (auth : String) :
    Within n ([.authStarted auth] ++ trace) :=
  Within.opened (f := .credential auth) (fun _ => rfl) h

/-! ## §4. The frames of a run. -/

/-- The trace of a playbook or a credential: balanced, and within some playbooks. -/
structure Enclosed (n : Nat) (trace : List Event) : Prop where
  balanced : Balanced trace
  within : Within n trace

theorem Enclosed.append {n : Nat} {a b : List Event} (ha : Enclosed n a) (hb : Enclosed n b) :
    Enclosed n (a ++ b) :=
  ⟨ha.balanced.append hb.balanced, .append ha.balanced ha.within hb.within⟩

/-- The trace of a part of a playbook: a failure closes the playbook. -/
structure Outcome.Enclosed {α : Type} (n : Nat) (o : Outcome α) : Prop where
  frames : ∀ outer, framesAfter outer o.trace = if o.value.isSome then outer else outer.tail
  within : Within n o.trace

section Rules

variable {c : Setup} {t : Transport} {nested : Runner} {n : Nat}

/-- The playbooks that a runner runs are within so many. -/
def Runner.Enclosed (nested : Runner) (t : Transport) (n : Nat) : Prop :=
  nested.Ensures t fun _ _ _ o => ApiPlaybook.Enclosed n o.trace

/-- The scopes of a credential come from one playbook at most, which is enclosed. -/
theorem AcquisitionRun.enclosed (hn : nested.Enclosed t n) {auth : String}
    {method : CredentialMethod} {stack scopes : ScopeStack} {m m' : Moment} {trace : List Event}
    (h : AcquisitionRun t nested auth method stack m scopes trace m') : Enclosed n trace := by
  cases h with
  | direct hs => exact ⟨.nil, .nil⟩
  | staged hs ho => exact hn.of_outcome ho

/-- The frame of a credential around a trace and the events that end it. -/
theorem Enclosed.credential {trace ending : List Event} (h : Enclosed n trace)
    (hc : ClosesOne ending) (hw : Within n ending) (auth : String) :
    Enclosed n ([.authStarted auth] ++ trace ++ ending) := by
  rw [List.append_assoc]
  refine ⟨(h.balanced.append_closesOne hc).balanced (f := .credential auth) (fun _ => rfl), ?_⟩
  exact (Within.append h.balanced h.within hw).credential auth

/-- A credential closes what it opens, whether it fails or not. -/
theorem CredentialRun.enclosed (hn : nested.Enclosed t n) {auth : String} {stack : ScopeStack}
    {m : Moment} {o : Outcome ResolvedCredential}
    (h : CredentialRun c t nested stack auth m o) : Enclosed n o.trace := by
  cases h with
  | unknown hm => exact Enclosed.credential ⟨.nil, .nil⟩ (fun _ => rfl) (.single _) auth
  | kept hm hk =>
    exact Enclosed.credential ⟨.nil, .nil⟩ (fun _ => rfl)
      (.flat (by simp [Event.framesAfter])) auth
  | notAcquired hm hk hs ho =>
    exact (hn.of_outcome ho).credential (fun _ => rfl) (.single _) auth
  | incomplete hm hk ha hf hmissing =>
    exact (ha.enclosed hn).credential (fun _ => rfl) (.flat (by simp [Event.framesAfter])) auth
  | obtained hm hk ha hf hmissing =>
    exact (ha.enclosed hn).credential (fun _ => rfl) (.flat (by simp [Event.framesAfter])) auth

theorem CredentialsRun.enclosed (hn : nested.Enclosed t n) {auths : List String}
    {stack : ScopeStack} {result : AuthResult} {m : Moment} {o : Outcome AuthResult}
    (h : CredentialsRun c t nested stack auths result m o) : Enclosed n o.trace := by
  induction h with
  | done => exact ⟨.nil, .nil⟩
  | failed hc => exact hc.enclosed hn
  | next hc hr ih => exact (hc.enclosed hn).append ih

/-- A request opens nothing, and its failure closes the playbook around it. -/
theorem RequestRun.enclosed {playbook : String} {index : Nat} {s : Stage} {outer : ScopeStack}
    {request : Request} {credentials : AuthResult} {m : Moment} {o : Outcome ScopeStack}
    (h : RequestRun c t playbook index s outer request credentials m o) : o.Enclosed n := by
  cases h <;> exact ⟨fun _ => rfl, .flat (by simp [Payload.report, Event.framesAfter])⟩

/-- A stage that succeeds leaves the frames alone; one that fails closes the playbook. -/
theorem StageRun.enclosed (hn : nested.Enclosed t n) {playbook : String} {index : Nat}
    {s : Stage} {outer : ScopeStack} {m : Moment} {o : Outcome ScopeStack}
    (h : StageRun c t nested playbook index s outer m o) : o.Enclosed n := by
  have started (ref : RequestRef) : Enclosed n [.requestStarted ref] :=
    ⟨fun _ => rfl, .single _⟩
  cases h with
  | noRequest hr => exact ⟨fun _ => rfl, .single _⟩
  | @noCredentials ref request trace m' hr hc =>
    -- the credentials closed their own frames; the last event closes that of the playbook
    have h := (started ref).append (hc.enclosed hn)
    exact ⟨h.balanced.append_closesOne fun _ => rfl, .append h.balanced h.within (.single _)⟩
  | @ran ref request credentials trace m' o hr hc ho =>
    have h := (started ref).append (hc.enclosed hn)
    have hd : o.Enclosed n := ho.enclosed
    refine ⟨?_, .append h.balanced h.within hd.within⟩
    intro outer
    rw [framesAfter_append, h.balanced, hd.frames]

theorem StagesRun.enclosed (hn : nested.Enclosed t n) {playbook : String}
    {stack assigned : ScopeStack} {index : Nat} {stages : List Stage} {m : Moment}
    {o : Outcome ScopeStack} (h : StagesRun c t nested playbook stack index assigned stages m o) :
    o.Enclosed n := by
  induction h with
  | done => exact ⟨fun _ => rfl, .nil⟩
  | failed hs => exact hs.enclosed hn
  | next hs hr ih =>
    -- this stage leaves the frames as they were, so those behind the rest decide
    have h := hs.enclosed hn
    refine ⟨?_, .append h.frames h.within ih.within⟩
    intro outer
    rw [framesAfter_append, h.frames, ih.frames]
    rfl

/-- A playbook is balanced in both cases, by its own end or by that of its last stage. -/
theorem PlaybookRun.enclosed (hn : nested.Enclosed t n) {name : String} {stages : List Stage}
    {stack : ScopeStack} {m : Moment} {o : Outcome ScopeStack}
    (h : PlaybookRun c t nested name stages stack m o) : Enclosed (n + 1) o.trace := by
  cases h with
  | failed hs =>
    -- the stage that failed has closed the frame of the playbook
    have h := hs.enclosed hn
    exact ⟨ClosesOne.balanced (f := .playbook name) h.frames fun _ => rfl, h.within.playbook name⟩
  | finished hs =>
    have h := hs.enclosed hn
    have hb : Balanced _ := h.frames
    rw [List.append_assoc]
    exact ⟨(hb.append_closesOne fun _ => rfl).balanced (f := .playbook name) fun _ => rfl,
      (Within.append hb h.within (.single _)).playbook name⟩

end Rules

section Playbooks

variable (c : Setup) (t : Transport)

/-- By induction on the levels that are left: each takes one more open playbook. -/
theorem playbookWithin_enclosed (levels depth : Nat) :
    Runner.Enclosed (c.playbookWithin levels depth) t (levels + 1) := by
  refine playbookWithin_induction c t
    (P := fun levels _ _ _ o => ApiPlaybook.Enclosed (levels + 1) o.trace) ?_ ?_ levels depth
  · intro name stages m
    exact ⟨ClosesOne.balanced (f := .playbook name) (fun _ => rfl) fun _ => rfl,
      Within.playbook (.single _) name⟩
  · intro levels depth ih name stages stack m o h
    exact h.enclosed ih

/-- At a depth, the levels that are left bound the open playbooks. -/
theorem playbookAt_enclosed (depth : Nat) :
    Runner.Enclosed (c.playbookAt depth) t (maxDepth - depth + 1) :=
  playbookWithin_enclosed c t (maxDepth - depth) depth

/-- The playbooks of a run are balanced one after another, even the one that fails. -/
theorem PlaybooksRun.enclosed {c : Setup} {t : Transport} {stack assigned v : ScopeStack}
    {ps : List Playbook} {m m' : Moment} {trace : List Event}
    (h : PlaybooksRun c t stack assigned ps m v trace m') : Enclosed (maxDepth + 1) trace := by
  induction h with
  | done => exact ⟨.nil, .nil⟩
  | passedOver hp hr ih => exact ih
  | halted hp hn => exact (playbookAt_enclosed c t 0).of_outcome hn
  | next hp hn hr ih => exact ((playbookAt_enclosed c t 0).of_outcome hn).append ih

/-- The frames behind a beginning of a trace are those at one of its events, or
behind all of it. -/
theorem framesAfter_of_append (outer : List Frame) (a b : List Event) :
    framesAfter outer (a ++ b) = framesAfter outer a ∧ b = [] ∨
      ∃ e ∈ b, (framesAfter outer a, e) ∈ framed outer (a ++ b) := by
  cases b with
  | nil => exact .inl ⟨by rw [List.append_nil], rfl⟩
  | cons e rest =>
    refine .inr ⟨e, List.mem_cons_self, ?_⟩
    rw [framed_append]
    exact List.mem_append_right _ List.mem_cons_self

/-- However far a trace has come, at most so many playbooks are open. -/
theorem Enclosed.openPlaybooks_le {n : Nat} {a b : List Event} (h : Enclosed n (a ++ b)) :
    openPlaybooks (framesAfter [] a) ≤ n := by
  rcases framesAfter_of_append [] a b with ⟨ha, -⟩ | ⟨e, -, he⟩
  · rw [← ha, h.balanced]
    exact Nat.zero_le n
  · obtain ⟨inner, hi, hn⟩ := h.within [] _ he
    simp only [List.append_nil] at hi
    rw [hi]
    exact hn

end Playbooks

end ApiPlaybook
