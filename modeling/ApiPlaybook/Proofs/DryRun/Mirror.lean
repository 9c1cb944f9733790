/-
  ApiPlaybook.Proofs.DryRun.Mirror
  ────────────────────────────────
  **TWO RUNS SIDE BY SIDE.**

  A dry run sends nothing: it gets mock replies.  Side by side with a run that
  has another transport it reports events of the same kinds (`Matched`), until
  the other run fails, or the dry run has values of which no request can be
  built (`Parted`).  What the dry run sets covers what the other one sets, and
  both keep credentials under the same keys.

      a step mirrors another one, if the two come to such outcomes whenever they
      start at moments with the same keys; steps that mirror each other can be
      put behind steps that do (`Step.Mirrors.bind`).
-/
import Mathlib.Data.List.Forall2
import ApiPlaybook.Proofs.DryRun.Visible
import ApiPlaybook.Proofs.Run.Rules

namespace ApiPlaybook

variable {α β : Type}

/-! ## §1. Traces side by side. -/

/-- Two events of one kind, neither of them a failure. -/
structure Event.Paired (e e' : Event) : Prop where
  tag_eq : e.tag = e'.tag
  left : e.isFailure = false
  right : e'.isFailure = false

namespace Event.Paired

-- One law for each event with values that may differ: where it is used these values
-- are whole payloads, and nothing should have to compare them.

/-- An event that is no failure is paired with itself. -/
theorem refl {e : Event} (h : e.isFailure = false) : e.Paired e := ⟨rfl, h, h⟩

/-- A kept value may be another one. -/
theorem credentialFromCache (auth value value' : String) :
    (Event.credentialFromCache auth value).Paired (.credentialFromCache auth value') :=
  ⟨rfl, rfl, rfl⟩

/-- What a template was filled in with may be other values. -/
theorem credentialSubstituted (auth value value' : String) (stack stack' : ScopeStack)
    (found found' : List FoundVariable) (missing missing' : List MissingVariable) :
    (Event.credentialSubstituted auth value stack found missing).Paired
      (.credentialSubstituted auth value' stack' found' missing') := ⟨rfl, rfl, rfl⟩

theorem payloadSubstituted (stack stack' : ScopeStack) (found found' : List FoundVariable)
    (missing missing' : List MissingVariable) :
    (Event.payloadSubstituted stack found missing).Paired
      (.payloadSubstituted stack' found' missing') := ⟨rfl, rfl, rfl⟩

/-- The requests may differ, the operation is the same. -/
theorem requestPrepared (http http' : HttpRequest) (operation : Option String) :
    (Event.requestPrepared http operation).Paired (.requestPrepared http' operation) :=
  ⟨rfl, rfl, rfl⟩

/-- The replies may differ: one of them is a mock. -/
theorem responseReceived (reply reply' : Reply) :
    (Event.responseReceived reply).Paired (.responseReceived reply') := ⟨rfl, rfl, rfl⟩

/-- The values that are assigned may differ. -/
theorem variablesAssigned (scope scope' : Scope) :
    (Event.variablesAssigned scope).Paired (.variablesAssigned scope') := ⟨rfl, rfl, rfl⟩

end Event.Paired

/-- Event by event of one kind, without failures. -/
def Matched (dry real : List Event) : Prop := List.Forall₂ Event.Paired dry real

/-- Matched up to a place at which the real run fails, or the dry one cannot build a
request.  Nothing is said about what follows. -/
inductive Parted : List Event → List Event → Prop where
  | failed {e : Event} {dry rest : List Event} (he : e.isFailure = true) : Parted dry (e :: rest)
  | notBuilt {error : BuildError} {rest real : List Event} :
      Parted (.prepareFailed (.build error) :: rest) real
  | behind {e e' : Event} {dry real : List Event} (he : e.Paired e') (h : Parted dry real) :
      Parted (e :: dry) (e' :: real)

theorem Matched.nil : Matched [] [] := List.Forall₂.nil

theorem Matched.single {e e' : Event} (h : e.Paired e') : Matched [e] [e'] := .cons h .nil

theorem Matched.append {x x' y y' : List Event} (h : Matched x y) (h' : Matched x' y') :
    Matched (x ++ x') (y ++ y') := List.rel_append h h'

theorem Matched.parted {x x' y y' : List Event} (h : Matched x y) (h' : Parted x' y') :
    Parted (x ++ x') (y ++ y') := by
  induction h with
  | nil => exact h'
  | cons he _ ih => exact .behind he ih

/-- Runs that have parted stay so. -/
theorem Parted.append {x y : List Event} (h : Parted x y) (x' y' : List Event) :
    Parted (x ++ x') (y ++ y') := by
  induction h with
  | failed he => exact .failed he
  | notBuilt => exact .notBuilt
  | behind he _ ih => exact .behind he ih

/-- Behind the place where they part the dry run may go on as it likes. -/
theorem Parted.append_left {x y : List Event} (h : Parted x y) (x' : List Event) :
    Parted (x ++ x') y := by
  have h := h.append x' []
  rw [List.append_nil] at h
  exact h

theorem Parted.append_right {x y : List Event} (h : Parted x y) (y' : List Event) :
    Parted x (y ++ y') := by
  have h := h.append [] y'
  rw [List.append_nil] at h
  exact h

/-! ## §2. Outcomes and steps side by side. -/

/-- Two caches with the same keys. -/
def CredentialCache.SameKeys (dry real : CredentialCache) : Prop :=
  ∀ key, (dry.get? key).isSome = (real.get? key).isSome

/-- Both keep the credential, under one key, with values of their own. -/
theorem CredentialCache.SameKeys.insert {dry real : CredentialCache} (h : dry.SameKeys real)
    (key : CredentialKey) (value value' : String) :
    (dry.insert key value).SameKeys (real.insert key value') := by
  intro other
  rw [CredentialCache.get?_insert, CredentialCache.get?_insert]
  by_cases hk : other = key
  · rw [if_pos hk, if_pos hk]
    rfl
  · rw [if_neg hk, if_neg hk]
    exact h other

/-- Both succeed with values that are related, or the runs have parted. -/
inductive Outcome.Mirrors (R : α → α → Prop) : Outcome α → Outcome α → Prop where
  | matched {v v' : α} {x y : List Event} {m m' : Moment} (hv : R v v')
      (hm : m.cache.SameKeys m'.cache) (h : Matched x y) : Mirrors R ⟨some v, x, m⟩ ⟨some v', y, m'⟩
  | parted {o o' : Outcome α} (h : Parted o.trace o'.trace) : Mirrors R o o'

/-- Matching events in front of outcomes that mirror each other. -/
theorem Outcome.Mirrors.reporting {R : α → α → Prop} {o o' : Outcome α} (h : o.Mirrors R o')
    {x y : List Event} (hxy : Matched x y) : (o.reporting x).Mirrors R (o'.reporting y) := by
  cases h with
  | matched hv hm h => exact .matched hv hm (hxy.append h)
  | parted h => exact .parted (hxy.parted h)

/-- Whether or not a run goes on, it only adds to its trace. -/
theorem Outcome.andThen_trace (o : Outcome α) (f : α → Moment → Outcome β) :
    ∃ rest, (o.andThen f).trace = o.trace ++ rest := by
  obtain ⟨v, trace, m⟩ := o
  cases v with
  | some v => exact ⟨_, rfl⟩
  | none => exact ⟨[], (List.append_nil trace).symm⟩

/-- An event of failure is only ever added behind. -/
theorem Step.orFail_trace (t : Transport) (x : Step α) (e : Event) (m : Moment) :
    ∃ rest, ((x.orFail e).outcome t m).trace = (x.outcome t m).trace ++ rest := by
  rw [Step.outcome_orFail]
  obtain ⟨v, trace, m'⟩ := x.outcome t m
  cases v with
  | some v => exact ⟨[], (List.append_nil trace).symm⟩
  | none => exact ⟨[e], rfl⟩

/-- What comes of two steps, the first one in a dry run and the second one with some
transport. -/
def Step.Mirrors (t : Transport) (R : α → α → Prop) (dry real : Step α) : Prop :=
  ∀ m m', m.cache.SameKeys m'.cache → (dry.outcome .mock m).Mirrors R (real.outcome t m')

namespace Step.Mirrors

variable {t : Transport} {R : α → α → Prop} {S : β → β → Prop}

/-- Values that are related mirror each other as steps. -/
theorem pure {v v' : α} (h : R v v') : Step.Mirrors t R (Pure.pure v) (Pure.pure v') := by
  intro m m' hm
  exact .matched h hm .nil

/-- **ONE STEP AFTER ANOTHER**: if the first steps mirror each other, and the next ones
do for all values that they may come to. -/
theorem bind {x x' : Step α} {f f' : α → Step β} (h : Step.Mirrors t R x x')
    (hf : ∀ v v', R v v' → Step.Mirrors t S (f v) (f' v')) :
    Step.Mirrors t S (x >>= f) (x' >>= f') := by
  intro m m' hm
  have hx := h m m' hm
  rw [Step.outcome_bind, Step.outcome_bind]
  -- the outcomes as variables, so that the cases of `hx` can fix their forms
  generalize x.outcome .mock m = o at hx ⊢
  generalize x'.outcome t m' = o' at hx ⊢
  cases hx with
  | matched hv hm h => exact (hf _ _ hv _ _ hm).reporting h
  | parted h =>
    -- whatever the two runs do now, it stands behind the place at which they parted
    obtain ⟨rest, hrest⟩ := o.andThen_trace fun v m => (f v).outcome .mock m
    obtain ⟨rest', hrest'⟩ := o'.andThen_trace fun v m => (f' v).outcome t m
    refine .parted ?_
    rw [hrest, hrest']
    exact h.append rest rest'

theorem report {e e' : Event} (h : e.Paired e') :
    Step.Mirrors t (fun _ _ => True) (Step.report e) (Step.report e') := by
  intro m m' hm
  exact .matched trivial hm (.single h)

/-- The real run fails, whatever the dry one does. -/
theorem fail {x : Step α} {e : Event} (h : e.isFailure = true) :
    Step.Mirrors t R x (Step.fail e) := by
  intro m m' hm
  exact .parted (.failed h)

/-- Go on only if nothing is missing: the dry run does if the real one does. -/
theorem unless_missing {missing missing' : List MissingVariable} {e e' : Event}
    {f f' : Unit → Step β} (hm : missing' = [] → missing = []) (he : e'.isFailure = true)
    (hf : Step.Mirrors t S (f ()) (f' ())) :
    Step.Mirrors t S (if (!missing.isEmpty) = true then Step.fail e >>= f else f ())
      (if (!missing'.isEmpty) = true then Step.fail e' >>= f' else f' ()) := by
  by_cases h : missing' = []
  · rw [h, hm h]
    exact hf
  · -- the real run fails here, so it does not matter whether the dry one does
    have hfail : (!missing'.isEmpty) = true := by simpa using h
    rw [if_pos hfail]
    intro m m' _
    exact .parted (.failed he)

/-- The dry run cannot build a request, whatever the real one does. -/
theorem notBuilt {x : Step α} {error : BuildError} :
    Step.Mirrors t R (Step.fail (.prepareFailed (.build error))) x := by
  intro m m' hm
  exact .parted .notBuilt

/-- Values with warnings, whatever is warned of. -/
theorem ofWarned {w w' : Warned α} (h : R w.value w'.value) :
    Step.Mirrors t R (Step.ofCourse (.ofWarned w)) (Step.ofCourse (.ofWarned w')) := by
  intro m m' hm
  rw [Step.outcome_ofWarned, Step.outcome_ofWarned]
  exact .matched h hm .nil

theorem warnAll (ws : List Warning) :
    Step.Mirrors t (fun _ _ => True) (Step.ofCourse (Course.warnAll ws))
      (Step.ofCourse (Course.warnAll ws)) := by
  intro m m' hm
  rw [Step.outcome_warnAll, Step.outcome_warnAll]
  exact .matched trivial hm .nil

/-- With the same keys kept, a credential is found in both caches or in neither. -/
theorem kept? (key : CredentialKey) :
    Step.Mirrors t (fun v v' => v.isSome = v'.isSome) (Step.kept? key) (Step.kept? key) := by
  intro m m' hm
  exact .matched (hm key) hm .nil

/-- Both keep a value, which may differ. -/
theorem keep (key : CredentialKey) (value value' : String) :
    Step.Mirrors t (fun _ _ => True) (Step.keep key value) (Step.keep key value') := by
  intro m m' hm
  exact .matched trivial (hm.insert key value value') .nil

/-- A failure that is told by one more event has parted before it. -/
theorem orFail {x x' : Step α} (h : Step.Mirrors t R x x') (e e' : Event) :
    Step.Mirrors t R (x.orFail e) (x'.orFail e') := by
  intro m m' hm
  have hx := h m m' hm
  obtain ⟨rest, hrest⟩ := x.orFail_trace .mock e m
  obtain ⟨rest', hrest'⟩ := x'.orFail_trace t e' m'
  rw [Step.outcome_orFail] at hrest ⊢
  rw [Step.outcome_orFail] at hrest' ⊢
  generalize x.outcome .mock m = o at hx hrest ⊢
  generalize x'.outcome t m' = o' at hx hrest' ⊢
  cases hx with
  | matched hv hm h => exact .matched hv hm h
  | parted h =>
    refine .parted ?_
    rw [hrest, hrest']
    exact h.append rest rest'

end Step.Mirrors

/-! ## §3. Runs side by side. -/

section Runs

variable {c : Setup} {t : Transport} {nested : Runner} {stack other : ScopeStack}

/-- The playbooks that a runner runs mirror each other in stacks of which the dry one
covers the real one, and so do the scopes that they set. -/
def Runner.Mirrors (nested : Runner) (t : Transport) : Prop :=
  ∀ name stages stack other, ScopeStack.Covers stack other →
    Step.Mirrors t ScopeStack.Covers (nested name stages stack) (nested name stages other)

/-- The playbook of a credential sets scopes that cover each other. -/
theorem acquisitionScopes_mirrors (hn : nested.Mirrors t) (h : ScopeStack.Covers stack other)
    (auth : String) (method : CredentialMethod) :
    Step.Mirrors t ScopeStack.Covers (Setup.acquisitionScopes nested auth method stack)
      (Setup.acquisitionScopes nested auth method other) := by
  unfold Setup.acquisitionScopes
  cases method.stages with
  | none => exact .pure h
  | some stages =>
    refine .bind (.orFail (hn auth stages stack other h) _ _) fun assigned assigned' ha => ?_
    exact .pure (h.append ha)

/-- Where the template lacks a variable in the dry run, it lacks it in the other run. -/
theorem acquire_mirrors (hn : nested.Mirrors t) (h : ScopeStack.Covers stack other)
    (auth : String) (key : CredentialKey) (method : CredentialMethod) :
    Step.Mirrors t (fun _ _ => True) (Setup.acquire nested auth key method stack)
      (Setup.acquire nested auth key method other) := by
  unfold Setup.acquire
  refine .bind (acquisitionScopes_mirrors hn h auth method) fun scopes scopes' hs => ?_
  have hcovers := substituteCredential_covers hs method.template
  refine .bind (.report (.credentialSubstituted ..)) fun _ _ _ => ?_
  refine .unless_missing hcovers rfl ?_
  exact .bind (.keep key _ _) fun _ _ _ => .pure trivial

/-- A credential is kept on both sides, or acquired on both. -/
theorem credentialValue_mirrors (hn : nested.Mirrors t) (h : ScopeStack.Covers stack other)
    (auth : String) (key : CredentialKey) (method : CredentialMethod) :
    Step.Mirrors t (fun _ _ => True) (Setup.credentialValue nested auth key method stack)
      (Setup.credentialValue nested auth key method other) := by
  unfold Setup.credentialValue
  refine .bind (.kept? key) fun v v' hv => ?_
  -- the same keys are kept, so both runs take the value from the cache, or neither does
  cases v with
  | some v =>
    cases v' with
    | some v' => exact .bind (.report (.credentialFromCache ..)) fun _ _ _ => .pure trivial
    | none => cases hv
  | none =>
    cases v' with
    | some v' => cases hv
    | none => exact acquire_mirrors hn h auth key method

/-- A credential is resolved on both sides, to values of their own. -/
theorem resolve_mirrors (hn : nested.Mirrors t) (h : ScopeStack.Covers stack other)
    (auth : String) :
    Step.Mirrors t (fun _ _ => True) (c.resolve nested stack auth)
      (c.resolve nested other auth) := by
  unfold Setup.resolve
  refine .bind (.report (.refl rfl)) fun _ _ _ => ?_
  cases c.method auth with
  | error e => exact .fail rfl
  | ok found =>
    refine .bind (credentialValue_mirrors hn h auth found.1 found.2.2) fun _ _ _ => ?_
    refine .bind (.ofWarned (R := fun _ _ => True) trivial) fun _ _ _ => ?_
    exact .bind (.report (.refl rfl)) fun _ _ _ => .pure trivial

theorem resolveAll_mirrors (hn : nested.Mirrors t) (h : ScopeStack.Covers stack other)
    (auths : List String) (result result' : AuthResult) :
    Step.Mirrors t (fun _ _ => True) (c.resolveAll nested stack auths result)
      (c.resolveAll nested other auths result') := by
  induction auths generalizing result result' with
  | nil => exact .pure trivial
  | cons auth rest ih => exact .bind (resolve_mirrors hn h auth) fun _ _ _ => ih _ _

/-- With the event that ends the stage when one of them fails. -/
theorem credentials_mirrors (hn : nested.Mirrors t) (h : ScopeStack.Covers stack other)
    (request : Request) :
    Step.Mirrors t (fun _ _ => True) (c.credentials nested request stack)
      (c.credentials nested request other) := by
  unfold Setup.credentials
  cases request.isExternal with
  | true => exact .pure trivial
  | false => exact .orFail (resolveAll_mirrors hn h request.auth .empty .empty) _ _

/-- A mock reply is always there, and always the one that is expected. -/
theorem exchange_mirrors (http http' : HttpRequest) (operation : Option String) :
    Step.Mirrors t (fun reply _ => reply = .mock) (exchange http operation)
      (exchange http' operation) := by
  unfold exchange
  refine .bind (.report (.requestPrepared ..)) fun _ _ _ => ?_
  have sent : Step.Mirrors t (fun v _ => v = .ok .mock) (Step.send http) (Step.send http') := by
    intro m m' hm
    exact .matched rfl hm .nil
  refine .bind sent fun v v' hv => ?_
  cases hv
  cases v' with
  | error e => exact .fail rfl
  | ok reply => exact .bind (.report (.responseReceived ..)) fun _ _ _ => .pure rfl

/-- After a mock reply each variable is set that a response may set. -/
theorem assignVariables_mirrors (id : String) (rules : Responses) (http http' : HttpRequest)
    (reply : Reply) :
    Step.Mirrors t (fun scope scope' => ScopeStack.Covers [scope] [scope'])
      (assignVariables id rules http .mock) (assignVariables id rules http' reply) := by
  unfold assignVariables
  cases h : rules.extract id http .mock with
  | error e =>
    -- no rule fails on a mock reply
    cases h
  | ok scope =>
    cases h' : rules.extract id http' reply with
    | error e => exact .fail rfl
    | ok scope' =>
      refine .bind (.report (.variablesAssigned ..)) fun _ _ _ => ?_
      exact .pure (rules.extract_covers id http http' h h')

/-- **ONE REQUEST**: the dry run lacks nothing that the other run has, and gets a mock for an
answer. -/
theorem deliver_mirrors (h : ScopeStack.Covers stack other) (playbook : String) (index : Nat)
    (s : Stage) (request : Request) (credentials credentials' : AuthResult) :
    Step.Mirrors t ScopeStack.Covers (c.deliver playbook index s stack request credentials)
      (c.deliver playbook index s other request credentials') := by
  unfold Setup.deliver
  refine .bind (.report (.payloadSubstituted ..)) fun _ _ _ => ?_
  refine .unless_missing (Stage.payload_covers h s request) rfl ?_
  refine .bind (.ofWarned (R := fun _ _ => True) trivial) fun v v' _ => ?_
  cases v with
  | error e =>
    -- the one failure of a dry run that the other run need not share: values are built in
    exact .notBuilt
  | ok http =>
    cases v' with
    | error e => exact .fail rfl
    | ok http' =>
      refine .bind (exchange_mirrors http http' request.operationId) fun reply reply' hr => ?_
      cases hr
      cases s.unexpected? request reply' with
      | some e => exact .fail rfl
      | none =>
        refine .bind (assignVariables_mirrors _ _ _ _ _) fun first first' hfirst => ?_
        refine .bind (assignVariables_mirrors _ _ _ _ _) fun second second' hsecond => ?_
        exact .pure (hfirst.append hsecond)

/-- One stage: its credentials, then its request. -/
theorem stage_mirrors (hn : nested.Mirrors t) (h : ScopeStack.Covers stack other)
    (playbook : String) (index : Nat) (s : Stage) :
    Step.Mirrors t ScopeStack.Covers (c.stage nested playbook index s stack)
      (c.stage nested playbook index s other) := by
  cases hr : c.stageRequest index s with
  | error e =>
    unfold Setup.stage
    rw [hr]
    exact .fail rfl
  | ok found =>
    rw [stage_eq_deliver c nested playbook index s stack hr,
      stage_eq_deliver c nested playbook index s other hr]
    refine .bind (.report (.refl rfl)) fun _ _ _ => ?_
    refine .bind (credentials_mirrors hn h found.2) fun _ _ _ => ?_
    exact deliver_mirrors h playbook index s found.2 _ _

/-- The stages of a playbook, in scopes that cover each other more and more. -/
theorem stages_mirrors (hn : nested.Mirrors t) (h : ScopeStack.Covers stack other)
    (playbook : String) (index : Nat) {assigned assigned' : ScopeStack}
    (ha : ScopeStack.Covers assigned assigned') (stages : List Stage) :
    Step.Mirrors t ScopeStack.Covers (c.stages nested playbook stack index assigned stages)
      (c.stages nested playbook other index assigned' stages) := by
  induction stages generalizing index assigned assigned' with
  | nil => exact .pure ha
  | cons s rest ih =>
    refine .bind (stage_mirrors hn (h.append ha) playbook index s) fun scopes scopes' hs => ?_
    exact ih (index + 1) (ha.append hs)

/-- Playbooks at any depth mirror each other. -/
theorem playbookWithin_mirrors (levels depth : Nat) :
    (c.playbookWithin levels depth).Mirrors t := by
  induction levels generalizing depth with
  | zero =>
    intro name stages stack other h
    unfold Setup.playbookWithin
    refine .bind (.report (.refl rfl)) fun _ _ _ => ?_
    exact .bind (.warnAll _) fun _ _ _ => .fail rfl
  | succ levels ih =>
    intro name stages stack other h
    unfold Setup.playbookWithin
    refine .bind (.report (.refl rfl)) fun _ _ _ => ?_
    refine .bind (stages_mirrors (ih (depth + 1)) h name 0 (.refl []) stages) fun a a' ha => ?_
    exact .bind (.report (.refl rfl)) fun _ _ _ => .pure ha

end Runs

end ApiPlaybook
