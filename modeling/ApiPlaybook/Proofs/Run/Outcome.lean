/-
  ApiPlaybook.Proofs.Run.Outcome
  ──────────────────────────────
  **WHAT COMES OF A STEP.**

  A step starts at a moment, that is with the credentials obtained and the
  requests sent so far.  It succeeds with a value or fails, has reported events
  by then, and leaves a later moment.  The outcome of one step after another is
  made from the two outcomes:

      (x >>= f).outcome t m = (x.outcome t m).andThen fun v m' => (f v).outcome t m'

  With this law and those of the smallest steps no proof about a run has to
  look inside the monads that steps are made of.
-/
import ApiPlaybook.Run.Playbook

namespace ApiPlaybook

variable {α β : Type}

/-! ## §1. Moments and outcomes. -/

/-- What a step finds when it starts. -/
structure Moment where
  cache : CredentialCache
  /-- All requests sent so far. -/
  sent : List HttpRequest

/-- The moment after one more request was sent. -/
def Moment.sending (m : Moment) (request : HttpRequest) : Moment :=
  ⟨m.cache, m.sent ++ [request]⟩

/-- What comes of a step: no value means that it failed. -/
structure Outcome (α : Type) where
  value : Option α
  trace : List Event
  after : Moment

namespace Outcome

/-- The outcome with events reported before it. -/
def reporting (trace : List Event) (o : Outcome α) : Outcome α :=
  ⟨o.value, trace ++ o.trace, o.after⟩

/-- Go on with what follows, unless the step failed. -/
def andThen (o : Outcome α) (f : α → Moment → Outcome β) : Outcome β :=
  match o with
  | ⟨some v, trace, m⟩ => (f v m).reporting trace
  | ⟨none, trace, m⟩ => ⟨none, trace, m⟩

@[simp] theorem reporting_mk (trace trace' : List Event) (v : Option α) (m : Moment) :
    reporting trace ⟨v, trace', m⟩ = ⟨v, trace ++ trace', m⟩ := rfl

/-- Behind a success the next step goes on, with the events so far in front of its own. -/
@[simp] theorem andThen_some (v : α) (trace : List Event) (m : Moment)
    (f : α → Moment → Outcome β) :
    andThen ⟨some v, trace, m⟩ f = (f v m).reporting trace := rfl

@[simp] theorem andThen_none (trace : List Event) (m : Moment) (f : α → Moment → Outcome β) :
    andThen ⟨none, trace, m⟩ f = ⟨none, trace, m⟩ := rfl

/-- The trace of a success is of one form and that of a failure of another. -/
def Keeps (o : Outcome α) (done failed : List Event → Prop) : Prop :=
  match o.value with
  | some _ => done o.trace
  | none => failed o.trace

end Outcome

/-! ## §2. The outcome of a step. -/

namespace Step

/-- What comes of a step that starts at a moment. -/
def outcome (t : Transport) (x : Step α) (m : Moment) : Outcome α :=
  let ran := (x.run.run m.cache).run t m.sent
  ⟨ran.value.1, ran.trace, ⟨ran.value.2, ran.sent⟩⟩

/-- The outcome is all that running the step gives, but for the warnings. -/
theorem run_of_outcome {t : Transport} {x : Step α} {m m' : Moment} {v : Option α}
    {trace : List Event} (h : x.outcome t m = ⟨v, trace, m'⟩) :
    ∃ warnings, (x.run.run m.cache).run t m.sent
      = ⟨(v, m'.cache), trace, warnings, m'.sent⟩ := by
  unfold outcome at h
  obtain ⟨rfl, rfl, rfl⟩ := (Outcome.mk.injEq ..).mp h
  exact ⟨_, rfl⟩

/-- **THE OUTCOME OF ONE STEP AFTER ANOTHER** is made from the two outcomes. -/
@[simp] theorem outcome_bind (t : Transport) (x : Step α) (f : α → Step β) (m : Moment) :
    (x >>= f).outcome t m = (x.outcome t m).andThen fun v m' => (f v).outcome t m' := by
  have h : (x >>= f).run.run m.cache =
      (x.run.run m.cache >>= fun p => match p.1 with
        | some v => (f v).run.run p.2
        | none => pure (none, p.2)) := by
    -- the optional value is inside the credentials, so what follows is chosen by the pair
    refine congrArg (fun g => Course.bind g (x.run.run m.cache)) (funext fun p => ?_)
    obtain ⟨v, cache⟩ := p
    cases v <;> rfl
  unfold outcome
  rw [h, Course.run_bind]
  cases hv : (Course.run t m.sent (x.run.run m.cache)).value.1 with
  | some v => simp [hv]
  | none => simp [hv, pure, Course.run]

/-- A value by itself reports nothing and leaves the moment as it is. -/
@[simp] theorem outcome_pure (t : Transport) (v : α) (m : Moment) :
    (pure v : Step α).outcome t m = ⟨some v, [], m⟩ := rfl

/-- A function on the value changes neither the events nor the moment. -/
@[simp] theorem outcome_map (t : Transport) (f : α → β) (x : Step α) (m : Moment) :
    (f <$> x).outcome t m = (x.outcome t m).andThen fun v m' => ⟨some (f v), [], m'⟩ := by
  rw [← bind_pure_comp, outcome_bind]
  rfl

/-- A course inside a step cannot fail, and it keeps no credential. -/
theorem outcome_ofCourse (t : Transport) (c : Course α) (m : Moment) :
    (ofCourse c).outcome t m =
      ⟨some (c.run t m.sent).value, (c.run t m.sent).trace, ⟨m.cache, (c.run t m.sent).sent⟩⟩ := by
  have h : (ofCourse c).run.run m.cache = (c >>= fun v => pure (some v, m.cache)) :=
    bind_assoc c (fun v => pure (v, m.cache)) (fun p => pure (some p.1, p.2))
  unfold outcome
  rw [h, Course.run_bind]
  simp [pure, Course.run]

/-! ## §3. The smallest steps. -/

@[simp] theorem outcome_report (t : Transport) (e : Event) (m : Moment) :
    (report e).outcome t m = ⟨some (), [e], m⟩ := rfl

/-- A failure is told by its event. -/
@[simp] theorem outcome_fail (t : Transport) (e : Event) (m : Moment) :
    (fail e : Step α).outcome t m = ⟨none, [e], m⟩ := rfl

/-- A request is answered in view of all requests before it, and is one of them from then on. -/
@[simp] theorem outcome_send (t : Transport) (request : HttpRequest) (m : Moment) :
    (send request).outcome t m = ⟨some (t m.sent request), [], m.sending request⟩ := rfl

/-- Looking a credential up only reads the cache. -/
@[simp] theorem outcome_kept? (t : Transport) (key : CredentialKey) (m : Moment) :
    (kept? key).outcome t m = ⟨some (m.cache.get? key), [], m⟩ := rfl

/-- A credential that is kept is in the cache from then on. -/
@[simp] theorem outcome_keep (t : Transport) (key : CredentialKey) (value : String)
    (m : Moment) :
    (keep key value).outcome t m = ⟨some (), [], ⟨m.cache.insert key value, m.sent⟩⟩ := rfl

/-- A step with a failure event of its own reports it after all others. -/
theorem outcome_orFail (t : Transport) (x : Step α) (e : Event) (m : Moment) :
    (x.orFail e).outcome t m =
      match x.outcome t m with
      | ⟨some v, trace, m'⟩ => ⟨some v, trace, m'⟩
      | ⟨none, trace, m'⟩ => ⟨none, trace ++ [e], m'⟩ := by
  have h : (x.orFail e).run.run m.cache =
      (x.run.run m.cache >>= fun p => match p.1 with
        | some v => pure (some v, p.2)
        | none => (fail e : Step α).run.run p.2) := by
    refine congrArg (fun g => Course.bind g (x.run.run m.cache)) (funext fun p => ?_)
    obtain ⟨v, cache⟩ := p
    cases v <;> rfl
  simp only [outcome, h, Course.run_bind]
  cases hv : (Course.run t m.sent (x.run.run m.cache)).value.1 with
  | some v => simp [pure, Course.run]
  | none => rfl

/-! ## §4. Steps that only warn. -/

theorem run_warnAll (t : Transport) (sent : List HttpRequest) (ws : List Warning) :
    (Course.warnAll ws).run t sent = ⟨(), [], ws, sent⟩ := by
  induction ws with
  | nil => rfl
  | cons w rest ih => simp [Course.warnAll, Course.run, ih]

/-- A value with warnings returns the value. -/
theorem run_ofWarned (t : Transport) (sent : List HttpRequest) (w : Warned α) :
    (Course.ofWarned w).run t sent = ⟨w.value, [], w.warnings, sent⟩ := by
  simp [Course.ofWarned, Course.run_bind, run_warnAll, pure, Course.run]

/-- A warning that depends on a condition changes nothing of what follows it. -/
theorem run_unless_warn (t : Transport) (sent : List HttpRequest) (b : Bool) (ws : List Warning)
    (c : Course α) :
    ∃ warnings, (if b = true then c else Course.warnAll ws >>= fun _ => c).run t sent
      = ⟨(c.run t sent).value, (c.run t sent).trace, warnings, (c.run t sent).sent⟩ := by
  cases b with
  | true => exact ⟨_, rfl⟩
  | false => exact ⟨ws ++ (c.run t sent).warnings, by simp [Course.run_bind, run_warnAll]⟩

/-- No outcome shows the warnings of a step. -/
@[simp] theorem outcome_warnAll (t : Transport) (ws : List Warning) (m : Moment) :
    (ofCourse (Course.warnAll ws)).outcome t m = ⟨some (), [], m⟩ := by
  rw [outcome_ofCourse, run_warnAll]

/-- A value with warnings is that value, as an outcome. -/
@[simp] theorem outcome_ofWarned (t : Transport) (w : Warned α) (m : Moment) :
    (ofCourse (Course.ofWarned w)).outcome t m = ⟨some w.value, [], m⟩ := by
  rw [outcome_ofCourse, run_ofWarned]

end Step

/-! ## §5. What a runner ensures. -/

/-- A property of all playbooks that a runner runs: it is about the scopes and the
moment in which one starts and what comes of it. -/
def Runner.EnsuresIn (nested : Runner) (t : Transport)
    (P : String → List Stage → ScopeStack → Moment → Outcome ScopeStack → Prop) : Prop :=
  ∀ name stages stack m, P name stages stack m ((nested name stages stack).outcome t m)

/-- A property of all playbooks that a runner runs: it is about the moment at which
one starts and what comes of it, in whatever scopes. -/
def Runner.Ensures (nested : Runner) (t : Transport)
    (P : String → List Stage → Moment → Outcome ScopeStack → Prop) : Prop :=
  ∀ name stages stack m, P name stages m ((nested name stages stack).outcome t m)

/-- The traces of the playbooks that a runner runs are of two forms, by success. -/
def Runner.Keeps (nested : Runner) (t : Transport)
    (done failed : String → List Stage → List Event → Prop) : Prop :=
  nested.Ensures t fun name stages _ o => o.Keeps (done name stages) (failed name stages)

section Ensures

variable {nested : Runner} {t : Transport} {good bad : String → List Stage → List Event → Prop}
  {P : String → List Stage → Moment → Outcome ScopeStack → Prop} {name : String}
  {stages : List Stage} {stack : ScopeStack} {m m' : Moment} {trace : List Event}

/-- What a runner ensures, at an outcome that is known. -/
theorem Runner.Ensures.of_outcome (hn : nested.Ensures t P) {o : Outcome ScopeStack}
    (ho : (nested name stages stack).outcome t m = o) : P name stages m o := by
  rw [← ho]
  exact hn name stages stack m

/-- What a runner keeps, where it succeeds. -/
theorem Runner.Keeps.done (hn : nested.Keeps t good bad) {assigned : ScopeStack}
    (ho : (nested name stages stack).outcome t m = ⟨some assigned, trace, m'⟩) :
    good name stages trace :=
  Runner.Ensures.of_outcome hn ho

/-- What a runner keeps, where it fails. -/
theorem Runner.Keeps.failed (hn : nested.Keeps t good bad)
    (ho : (nested name stages stack).outcome t m = ⟨none, trace, m'⟩) :
    bad name stages trace :=
  Runner.Ensures.of_outcome hn ho

end Ensures

end ApiPlaybook
