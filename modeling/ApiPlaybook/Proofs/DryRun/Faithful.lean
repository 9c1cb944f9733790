/-
  ApiPlaybook.Proofs.DryRun.Faithful
  ──────────────────────────────────
  **A DRY RUN TELLS OF MISSING VARIABLES.**

  A dry run and a run with any other transport report events of the same kinds
  up to the first failure of either.  When the dry run fails for anything but a
  request that cannot be built, the other run has failed by then.  So whatever
  the servers say, no playbook can finish that a dry run finds to lack a
  variable, a credential or a request.
-/
import ApiPlaybook.Proofs.DryRun.Mirror
import ApiPlaybook.Proofs.Run.Causes
import ApiPlaybook.Proofs.Run.Grammar

namespace ApiPlaybook

/-! ## §1. Runs of playbooks side by side. -/

/-- **THE PLAYBOOKS OF A RUN**, side by side, match or part. -/
theorem PlaybooksRun.mirrors {c : Setup} {t : Transport} {ps : List Playbook}
    {stack other assigned assigned' v v' : ScopeStack} {m m₁ m' m₁' : Moment}
    {dry real : List Event} (hs : ScopeStack.Covers stack other)
    (ha : ScopeStack.Covers assigned assigned') (hm : m.cache.SameKeys m'.cache)
    (h : PlaybooksRun c .mock stack assigned ps m v dry m₁)
    (h' : PlaybooksRun c t other assigned' ps m' v' real m₁') :
    Matched dry real ∨ Parted dry real := by
  -- what comes of the first playbook, in both runs
  have playbook {name : String} {stages : List Stage} {stack other : ScopeStack} {m m' : Moment}
      {o o' : Outcome ScopeStack} (hs : ScopeStack.Covers stack other)
      (hm : m.cache.SameKeys m'.cache)
      (ho : (c.playbookAt 0 name stages stack).outcome .mock m = o)
      (ho' : (c.playbookAt 0 name stages other).outcome t m' = o') :
      o.Mirrors ScopeStack.Covers o' := by
    have h := playbookWithin_mirrors (c := c) (t := t) maxDepth 0 name stages stack other hs m m' hm
    rw [← ho, ← ho']
    exact h
  induction ps generalizing assigned assigned' m m' dry real with
  | nil =>
    cases h
    cases h'
    exact .inl .nil
  | cons p rest ih =>
    cases hp : p.stages.isEmpty with
    | true => exact ih ha hm (h.of_passedOver hp) (h'.of_passedOver hp)
    | false =>
      -- only where both go on does the rest matter; otherwise the first playbooks have parted
      rcases h.first_cases hp with hn | ⟨scopes, x, m₂, x', hn, rfl, hr⟩
      · rcases h'.first_cases hp with hn' | ⟨scopes', y, m₂', y', hn', rfl, hr'⟩
        · cases playbook (hs.append ha) hm hn hn' with
          | parted h => exact .inr h
        · cases playbook (hs.append ha) hm hn hn' with
          | parted h => exact .inr (h.append_right y')
      · rcases h'.first_cases hp with hn' | ⟨scopes', y, m₂', y', hn', rfl, hr'⟩
        · cases playbook (hs.append ha) hm hn hn' with
          | parted h => exact .inr (h.append_left x')
        · cases playbook (hs.append ha) hm hn hn' with
          | parted h => exact .inr (Parted.append h x' y')
          | matched hv hm h =>
            rcases ih (ha.append hv) hm hr hr' with hrest | hrest
            · exact .inl (h.append hrest)
            · exact .inr (h.parted hrest)

/-! ## §2. Places in traces. -/

/-- Where two traces match, neither has failed and their events are of the same kinds. -/
theorem Matched.isFailure_eq {dry real : List Event} (h : Matched dry real) :
    (∀ e ∈ dry, e.isFailure = false) ∧ (∀ e ∈ real, e.isFailure = false) ∧
      dry.map Event.tag = real.map Event.tag := by
  induction h with
  | nil => exact ⟨by simp, by simp, rfl⟩
  | cons he _ ih =>
    obtain ⟨hdry, hreal, htags⟩ := ih
    refine ⟨?_, ?_, ?_⟩
    · exact List.forall_mem_cons.mpr ⟨he.left, hdry⟩
    · exact List.forall_mem_cons.mpr ⟨he.right, hreal⟩
    · rw [List.map_cons, List.map_cons, he.tag_eq, htags]

/-- The kinds of events agree before the first failure of either trace. -/
def AgreeUntilFailure (dry real : List Event) : Prop :=
  ∀ n, (∀ e ∈ dry.take n, e.isFailure = false) → (∀ e ∈ real.take n, e.isFailure = false) →
    (dry.map Event.tag).take n = (real.map Event.tag).take n

/-- The place of the first failure. -/
def firstFailure? (trace : List Event) : Option Nat := trace.findIdx? Event.isFailure

/-- Where they part, they agree up to the first failure of either. -/
theorem Parted.agree {dry real : List Event} (h : Parted dry real) :
    AgreeUntilFailure dry real := by
  induction h with
  -- a prefix that is not empty would have the failure in it
  | failed he =>
    intro n hdry hreal
    cases n with
    | zero => rfl
    | succ n =>
      rw [hreal _ List.mem_cons_self] at he
      cases he
  | notBuilt =>
    intro n hdry hreal
    cases n with
    | zero => rfl
    | succ n =>
      have h := hdry _ List.mem_cons_self
      cases h
  -- a pair of events has one tag, and the prefix goes on behind it
  | behind he _ ih =>
    intro n hdry hreal
    cases n with
    | zero => rfl
    | succ n =>
      rw [List.take_succ_cons] at hdry hreal
      rw [List.map_cons, List.map_cons, List.take_succ_cons, List.take_succ_cons, he.tag_eq,
        ih n (fun e h => hdry e (List.mem_cons_of_mem _ h))
          fun e h => hreal e (List.mem_cons_of_mem _ h)]

/-- If the dry run does not first fail to build a request, the real one fails as early. -/
theorem Parted.fails {dry real : List Event} (h : Parted dry real) {i : Nat}
    (hi : firstFailure? dry = some i)
    (hb : ∀ error, dry[i]? ≠ some (.prepareFailed (.build error))) :
    ∃ j ≤ i, firstFailure? real = some j := by
  unfold firstFailure? at hi ⊢
  induction h generalizing i with
  | failed he =>
    refine ⟨0, Nat.zero_le i, ?_⟩
    rw [List.findIdx?_cons, if_pos he]
  | @notBuilt error rest real =>
    rw [List.findIdx?_cons] at hi
    cases hi
    exact absurd rfl (hb error)
  | behind he _ ih =>
    rw [List.findIdx?_cons, if_neg (by simp [he.left])] at hi
    obtain ⟨k, hk, rfl⟩ := Option.map_eq_some_iff.mp hi
    obtain ⟨j, hj, hreal⟩ := ih hk hb
    refine ⟨j + 1, Nat.succ_le_succ hj, ?_⟩
    rw [List.findIdx?_cons, if_neg (by simp [he.right]), hreal]
    rfl

/-! ## §3. Playbooks that all finish. -/

/-- The trace of a list of playbooks of which each one finishes; those without stages
leave no event. -/
inductive AllDone (c : Setup) : List Playbook → List Event → Prop where
  | done : AllDone c [] []
  | passedOver {p : Playbook} {rest : List Playbook} {blocks : List Event}
      (hp : p.stages.isEmpty = true) (hr : AllDone c rest blocks) : AllDone c (p :: rest) blocks
  | next {p : Playbook} {rest : List Playbook} {block blocks : List Event}
      (hp : p.stages.isEmpty = false) (hb : PlaybookDone c 0 p.name p.stages block)
      (hr : AllDone c rest blocks) : AllDone c (p :: rest) (block ++ blocks)

mutual

/-- No block of a success reports a failure. -/
theorem PlaybookDone.isFailure_eq {c : Setup} {depth : Nat} {name : String} {stages : List Stage}
    {block : List Event} :
    PlaybookDone c depth name stages block → ∀ e ∈ block, e.isFailure = false
  | .intro _ hs => by
    refine List.forall_mem_append.mpr ⟨List.forall_mem_append.mpr ⟨?_, hs.isFailure_eq⟩, ?_⟩
    · simp [Event.isFailure]
    · simp [Event.isFailure]

/-- The grammar has failures only where a block is failed: stages that are done have none. -/
theorem StagesDone.isFailure_eq {c : Setup} {depth : Nat} {stages : List Stage}
    {block : List Event} : StagesDone c depth stages block → ∀ e ∈ block, e.isFailure = false
  | .nil => by simp
  | .cons hs hr => List.forall_mem_append.mpr ⟨hs.isFailure_eq, hr.isFailure_eq⟩

theorem StageDone.isFailure_eq {c : Setup} {depth : Nat} {s : Stage} {block : List Event} :
    StageDone c depth s block → ∀ e ∈ block, e.isFailure = false
  | .intro _ _ hc hd => by
    refine List.forall_mem_append.mpr ⟨List.forall_mem_append.mpr ⟨?_, hc.isFailure_eq⟩, ?_⟩
    · simp [Event.isFailure]
    · cases hd
      simp [Event.isFailure]

theorem CredentialsDone.isFailure_eq {c : Setup} {depth : Nat} {auths : List String}
    {block : List Event} : CredentialsDone c depth auths block → ∀ e ∈ block, e.isFailure = false
  | .nil => by simp
  | .cons hc hr => List.forall_mem_append.mpr ⟨hc.isFailure_eq, hr.isFailure_eq⟩

theorem CredentialDone.isFailure_eq {c : Setup} {depth : Nat} {auth : String}
    {block : List Event} : CredentialDone c depth auth block → ∀ e ∈ block, e.isFailure = false
  | .fromCache _ => by simp [Event.isFailure]
  | .acquired _ ha => by
    refine List.forall_mem_append.mpr ⟨List.forall_mem_append.mpr ⟨?_, ha.isFailure_eq⟩, ?_⟩
    · simp [Event.isFailure]
    · simp [Event.isFailure]

theorem AcquisitionDone.isFailure_eq {c : Setup} {depth : Nat} {auth : String}
    {method : CredentialMethod} {block : List Event} :
    AcquisitionDone c depth auth method block → ∀ e ∈ block, e.isFailure = false
  | .direct _ => by simp
  | .staged _ hp => hp.isFailure_eq

end

theorem AllDone.isFailure_eq {c : Setup} {ps : List Playbook} {trace : List Event}
    (h : AllDone c ps trace) : ∀ e ∈ trace, e.isFailure = false := by
  induction h with
  | done => simp
  | passedOver hp hr ih => exact ih
  | next hp hb hr ih => exact List.forall_mem_append.mpr ⟨hb.isFailure_eq, ih⟩

/-- In a run without failures every playbook finishes. -/
theorem PlaybooksRun.allDone {c : Setup} {t : Transport} {stack assigned v : ScopeStack}
    {ps : List Playbook} {m m' : Moment} {trace : List Event}
    (h : PlaybooksRun c t stack assigned ps m v trace m')
    (hf : ∀ e ∈ trace, e.isFailure = false) : AllDone c ps trace := by
  induction h with
  | done => exact .done
  | passedOver hp hr ih => exact .passedOver hp (ih hf)
  | halted hp hn =>
    -- a playbook that fails reports a failure
    have hbroken : Broken _ := (playbookAt_unwinds c t 0).failed hn
    obtain ⟨e, he, hfailure⟩ := hbroken.fails
    rw [hf e he] at hfailure
    cases hfailure
  | next hp hn hr ih =>
    exact .next hp ((playbookAt_keeps c t 0).done hn)
      (ih fun e he => hf e (List.mem_append_right _ he))

/-! ## §4. Dry runs. -/

/-- What the trace of a dry run tells of that of a run with some transport. -/
structure Faithful (c : Setup) (ps : List Playbook) (dry real : List Event) : Prop where
  /-- The kinds of events agree before the first failure of either run. -/
  agree : AgreeUntilFailure dry real
  /-- When the dry run first fails other than to build a request, the other run has
  failed by then. -/
  fails : ∀ i, firstFailure? dry = some i →
    (∀ error, dry[i]? ≠ some (.prepareFailed (.build error))) →
      ∃ j ≤ i, firstFailure? real = some j
  /-- It first fails for what is missing or unknown, for the depth, or for a request
  that cannot be built. -/
  causes : ∀ i e, firstFailure? dry = some i → dry[i]? = some e → e.FailsUnsent
  /-- If all playbooks finish, they do so in the dry run, or it first fails to build a
  request. -/
  finishes : AllDone c ps real → AllDone c ps dry ∨
    ∃ i error, firstFailure? dry = some i ∧ dry[i]? = some (.prepareFailed (.build error))

/-- Without a failure there is no first one. -/
theorem firstFailure?_eq_none {x : List Event} (h : ∀ e ∈ x, e.isFailure = false) :
    firstFailure? x = none := by
  unfold firstFailure?
  rw [List.findIdx?_eq_none_iff]
  exact h

/-- The place of the first failure, and the cause that stands there. -/
theorem FailsFirst.firstFailure? {t : Transport} {x : List Event} (h : FailsFirst t x) :
    ∃ i e, ApiPlaybook.firstFailure? x = some i ∧ x[i]? = some e ∧ e.IsCause t := by
  obtain ⟨before, e, after, rfl, hbefore, he, hcause⟩ := h
  refine ⟨before.length, e, ?_, ?_, hcause⟩
  · have hnone : before.findIdx? Event.isFailure = none := firstFailure?_eq_none hbefore
    show (before ++ e :: after).findIdx? Event.isFailure = some before.length
    rw [List.findIdx?_append, hnone, List.findIdx?_cons, if_pos he]
    simp
  · rw [List.getElem?_append_right (Nat.le_refl _), Nat.sub_self]
    rfl

/-- What two runs side by side tell of the first failures. -/
theorem agree_of_sides {dry real : List Event} (h : Matched dry real ∨ Parted dry real) :
    AgreeUntilFailure dry real := by
  rcases h with h | h
  · intro n _ _
    rw [h.isFailure_eq.2.2]
  · exact h.agree

/-- Where the dry run fails for want of something, the other run has failed by then. -/
theorem fails_of_sides {dry real : List Event} (h : Matched dry real ∨ Parted dry real) {i : Nat}
    (hi : firstFailure? dry = some i)
    (hb : ∀ error, dry[i]? ≠ some (.prepareFailed (.build error))) :
    ∃ j ≤ i, firstFailure? real = some j := by
  rcases h with h | h
  · rw [firstFailure?_eq_none h.isFailure_eq.1] at hi
    cases hi
  · exact h.fails hi hb

/-- **A DRY RUN IS FAITHFUL ABOUT VARIABLES**: whatever the bundle, the API, the server,
the environment, the scopes, the playbooks and the transport. -/
theorem faithful_runAll (c : Setup) (t : Transport) (values : RuntimeValues)
    (extra : ScopeStack) (ps : List Playbook) :
    Faithful c ps ((c.runAll values extra ps).run .mock []).trace
      ((c.runAll values extra ps).run t []).trace := by
  obtain ⟨m, hdry, -⟩ := playbooksRun_runAll c .mock values extra ps
  obtain ⟨m', hreal, -⟩ := playbooksRun_runAll c t values extra ps
  generalize ((c.runAll values extra ps).run .mock []).trace = dry at hdry ⊢
  generalize ((c.runAll values extra ps).run t []).trace = real at hreal ⊢
  have hmirrors := hdry.mirrors (.refl _) (.refl []) (fun _ => rfl) hreal
  refine ⟨agree_of_sides hmirrors, fun i hi hb => fails_of_sides hmirrors hi hb, ?_, ?_⟩
  · intro i e hi he
    rcases hdry.failsFirst with h | h
    · rw [firstFailure?_eq_none h] at hi
      cases hi
    · obtain ⟨i', e', hi', he', hcause⟩ := h.firstFailure?
      rw [hi] at hi'
      cases hi'
      rw [he] at he'
      cases he'
      exact hcause.failsUnsent
  · intro hdone
    rcases hdry.failsFirst with h | h
    · exact .inl (hdry.allDone h)
    · obtain ⟨i, e, hi, he, -⟩ := h.firstFailure?
      by_cases hb : ∃ error, e = .prepareFailed (.build error)
      · obtain ⟨error, rfl⟩ := hb
        exact .inr ⟨i, error, hi, he⟩
      · -- any other failure would be one of the other run too, and that has none
        have hother (error : BuildError) : dry[i]? ≠ some (.prepareFailed (.build error)) := by
          intro h
          rw [he] at h
          exact hb ⟨error, Option.some.inj h⟩
        obtain ⟨j, -, hj⟩ := fails_of_sides hmirrors hi hother
        rw [firstFailure?_eq_none hdone.isFailure_eq] at hj
        cases hj

end ApiPlaybook
