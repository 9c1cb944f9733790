/-
  ApiPlaybook.Proofs.Acquisition.Sending
  ──────────────────────────────────────
  **HOW MANY REQUESTS A RUN SENDS.**

  A stage sends one request, but the credentials of that request may have stages
  of their own, whose requests may need credentials again.  Still nothing is
  sent twice for one credential: what was sent to acquire it is paid for by the
  value that is kept from then on.  So a run sends at most

      one request for each stage of its playbooks, and one for each stage by
      which some credential of the bundle is acquired,

  and only a run that fails can have sent more, for the acquisitions that were
  under way.  There are at most four of these, since a playbook five levels deep
  sends nothing (`sending_runAll`).
-/
import Mathlib.Algebra.Order.BigOperators.Group.Finset
import Mathlib.Algebra.Ring.Nat
import Mathlib.Order.Lattice.Nat
import ApiPlaybook.Proofs.Acquisition.Ledger

namespace ApiPlaybook

variable {α : Type}

/-! ## §1. What acquiring credentials costs. -/

namespace Bundle

variable (b : Bundle)

/-- The keys of all credentials, each with all its methods. -/
def credentialKeys : Finset CredentialKey :=
  (b.credentialGroups.flatMap fun group => group.entries.flatMap fun e =>
    e.2.methods.names.map fun method => ⟨e.1, method⟩).toFinset

/-- The number of stages by which the credential of a key is acquired, the first group
that knows its name counting. -/
def acquisitionLength (key : CredentialKey) : Nat :=
  (((b.method? key).bind (·.stages)).getD []).length

/-- The stages by which all credentials are acquired. -/
def acquisitionTotal : Nat := ∑ key ∈ b.credentialKeys, b.acquisitionLength key

/-- The most stages by which a credential is acquired. -/
def longestAcquisition : Nat := b.credentialKeys.sup b.acquisitionLength

/-- The stages by which the credentials in a cache were acquired. -/
def acquired (cache : CredentialCache) : Nat :=
  ∑ key ∈ b.credentialKeys with (cache.get? key).isSome, b.acquisitionLength key

variable {b}

/-- A key with a method is one of the bundle. -/
theorem mem_credentialKeys {key : CredentialKey} {method : CredentialMethod}
    (h : b.method? key = some method) : key ∈ b.credentialKeys := by
  obtain ⟨credential, hc, hm⟩ := Option.bind_eq_some_iff.mp h
  obtain ⟨group, hgroup, hname⟩ := List.exists_of_findSome?_eq_some hc
  refine List.mem_toFinset.mpr (List.mem_flatMap.mpr ⟨group, hgroup, ?_⟩)
  refine List.mem_flatMap.mpr ⟨(key.credential, credential), NameMap.mem_of_get? hname, ?_⟩
  exact List.mem_map.mpr ⟨key.method,
    List.mem_map.mpr ⟨(key.method, method), NameMap.mem_of_get? hm, rfl⟩, rfl⟩

/-- A known key has no more stages than the longest acquisition. -/
theorem acquisitionLength_le {key : CredentialKey} {method : CredentialMethod}
    (h : b.method? key = some method) : b.acquisitionLength key ≤ b.longestAcquisition :=
  Finset.le_sup (mem_credentialKeys h)

/-- The stages of the method of a key are counted. -/
theorem acquisitionLength_eq {key : CredentialKey} {method : CredentialMethod}
    {stages : List Stage} (hm : b.method? key = some method) (hs : method.stages = some stages) :
    b.acquisitionLength key = stages.length := by
  unfold acquisitionLength
  rw [hm, Option.bind_some, hs]
  rfl

/-- With nothing kept, nothing was paid for. -/
theorem acquired_empty : b.acquired .empty = 0 := by
  unfold acquired
  rw [Finset.filter_false_of_mem (fun _ _ => by simp [CredentialCache.empty, CredentialCache.get?]),
    Finset.sum_empty]

/-- No cache has paid for more than all credentials of the bundle cost. -/
theorem acquired_le_total (cache : CredentialCache) : b.acquired cache ≤ b.acquisitionTotal :=
  Finset.sum_le_sum_of_subset (Finset.filter_subset _ _)

/-- A value that is kept for the first time counts with the stages that acquired it. -/
theorem acquired_insert {key : CredentialKey} {method : CredentialMethod}
    {cache : CredentialCache} (hm : b.method? key = some method) (hk : cache.get? key = none)
    (value : String) :
    b.acquired (cache.insert key value) = b.acquisitionLength key + b.acquired cache := by
  have hkeys : (b.credentialKeys.filter fun k => ((cache.insert key value).get? k).isSome)
      = insert key (b.credentialKeys.filter fun k => (cache.get? k).isSome) := by
    ext k
    rw [Finset.mem_filter, Finset.mem_insert, Finset.mem_filter, CredentialCache.get?_insert]
    by_cases h : k = key
    · simp [h, mem_credentialKeys hm]
    · simp [h]
  have habsent : key ∉ b.credentialKeys.filter fun k => (cache.get? k).isSome := by
    simp [hk]
  unfold acquired
  rw [hkeys, Finset.sum_insert habsent]

/-! ## §2. What is paid for. -/

/-- From one moment to a later one, at most so many requests are sent that no credential
kept in between pays for. -/
def Sends (b : Bundle) (n : Nat) (m m' : Moment) : Prop :=
  m'.sent.length + b.acquired m.cache ≤ m.sent.length + b.acquired m'.cache + n

namespace Sends

variable {n n' : Nat} {m m' m'' : Moment}

theorem refl (m : Moment) : b.Sends 0 m m := Nat.le_refl _

/-- A larger bound is a bound as well. -/
theorem mono (h : b.Sends n m m') (hn : n ≤ n') : b.Sends n' m m' := by
  unfold Sends at h ⊢
  omega

/-- The bounds of two parts add up. -/
theorem trans (h : b.Sends n m m') (h' : b.Sends n' m' m'') : b.Sends (n + n') m m'' := by
  unfold Sends at h h' ⊢
  omega

/-- One request is sent, and no credential is paid for. -/
theorem sending (m : Moment) (request : HttpRequest) : b.Sends 1 m (m.sending request) := by
  show (m.sent ++ [request]).length + b.acquired m.cache
    ≤ m.sent.length + b.acquired m.cache + 1
  rw [List.length_append, List.length_singleton]
  omega

/-- A value that is kept pays for the stages that acquired it. -/
theorem keep {key : CredentialKey} {method : CredentialMethod}
    (h : b.Sends (b.acquisitionLength key) m m') (hm : b.method? key = some method)
    (hk : m'.cache.get? key = none) (value : String) :
    b.Sends 0 m ⟨m'.cache.insert key value, m'.sent⟩ := by
  show m'.sent.length + b.acquired m.cache
    ≤ m.sent.length + b.acquired (m'.cache.insert key value) + 0
  rw [acquired_insert hm hk value]
  unfold Sends at h
  omega

end Sends

end Bundle

/-- What a part of a run sends beyond what is paid for: so much if it succeeds, and so much
more if it fails. -/
def Outcome.Sends (b : Bundle) (n more : Nat) (m : Moment) (o : Outcome α) : Prop :=
  match o.value with
  | some _ => b.Sends n m o.after
  | none => b.Sends (n + more) m o.after

/-- What is sent first adds to what comes of the rest. -/
theorem Outcome.Sends.behind {b : Bundle} {n n' more : Nat} {m m' m'' : Moment} {v : Option α}
    {trace trace' : List Event} (ho : Outcome.Sends b n' more m' ⟨v, trace, m''⟩)
    (h : b.Sends n m m') : Outcome.Sends b (n + n') more m ⟨v, trace', m''⟩ := by
  cases v with
  | some v =>
    have hrest : b.Sends n' m' m'' := ho
    exact h.trans hrest
  | none =>
    have hrest : b.Sends (n' + more) m' m'' := ho
    exact (h.trans hrest).mono (by omega)

/-- What may have been sent for acquisitions that fail, with some levels left: one of them
is under way on each level. -/
def Bundle.underWay (b : Bundle) (levels : Nat) : Nat := levels * b.longestAcquisition

/-- What a playbook with some levels left sends: one request for each stage, if it fails
those under way on the levels below, and without a level nothing at all. -/
def Bundle.PlaybookSends (b : Bundle) (levels : Nat) (stages : List Stage) (m : Moment)
    (o : Outcome ScopeStack) : Prop :=
  match levels with
  | 0 => o.value = none ∧ b.Sends 0 m o.after
  | levels + 1 => o.Sends b stages.length (b.underWay levels) m

section Acquisitions

variable {b : Bundle} {key : CredentialKey} {method : CredentialMethod} {stages : List Stage}
  {levels : Nat} {m m' : Moment} {trace : List Event}

/-- An acquisition that fails has sent no more than those that are under way. -/
theorem Bundle.PlaybookSends.failed (hm : b.method? key = some method)
    (hs : method.stages = some stages)
    (h : b.PlaybookSends levels stages m ⟨none, trace, m'⟩) : b.Sends (b.underWay levels) m m' := by
  cases levels with
  | zero => exact h.2.mono (Nat.zero_le _)
  | succ levels =>
    have hsends : b.Sends (stages.length + b.underWay levels) m m' := h
    refine hsends.mono ?_
    -- one acquisition more than on the levels below
    have hlength : stages.length ≤ b.longestAcquisition :=
      acquisitionLength_eq hm hs ▸ acquisitionLength_le hm
    unfold Bundle.underWay
    rw [Nat.succ_mul]
    omega

/-- An acquisition that succeeds has some level left, and sends a request for each stage. -/
theorem Bundle.PlaybookSends.done {assigned : ScopeStack}
    (h : b.PlaybookSends levels stages m ⟨some assigned, trace, m'⟩) :
    0 < levels ∧ b.Sends stages.length m m' := by
  cases levels with
  | zero => exact nomatch h.1
  | succ levels => exact ⟨Nat.succ_pos levels, h⟩

end Acquisitions

/-! ## §3. Runs. -/

section Rules

variable {c : Setup} {t : Transport} {levels depth : Nat}

/-- The scopes for a template are acquired by a request for each stage of the method; and
if there are any, some level is left. -/
theorem AcquisitionRun.sends
    (hn : (c.playbookWithin levels depth).Ensures t fun _ => c.bundle.PlaybookSends levels)
    {auth : String} {key : CredentialKey} {method : CredentialMethod}
    {stack scopes : ScopeStack} {m m' : Moment} {trace : List Event}
    (hm : c.bundle.method? key = some method)
    (h : AcquisitionRun t (c.playbookWithin levels depth) auth method stack m scopes trace m') :
    c.bundle.Sends (c.bundle.acquisitionLength key) m m' ∧
      c.bundle.Sends (c.bundle.underWay levels) m m' := by
  cases h with
  | direct hs => exact ⟨(Bundle.Sends.refl m).mono (Nat.zero_le _),
      (Bundle.Sends.refl m).mono (Nat.zero_le _)⟩
  | staged hs ho =>
    obtain ⟨hlevels, hsends⟩ := (Runner.Ensures.of_outcome hn ho).done
    rw [← Bundle.acquisitionLength_eq hm hs] at hsends
    refine ⟨hsends, hsends.mono ?_⟩
    exact (Bundle.acquisitionLength_le hm).trans (Nat.le_mul_of_pos_left _ hlevels)

/-- A credential costs nothing that it does not pay for, unless it fails. -/
theorem CredentialRun.sends
    (hn : (c.playbookWithin levels depth).Ensures t fun _ => c.bundle.PlaybookSends levels)
    {auth : String} {stack : ScopeStack} {m : Moment} {o : Outcome ResolvedCredential}
    (h : CredentialRun c t (c.playbookWithin levels depth) stack auth m o) :
    o.Sends c.bundle 0 (c.bundle.underWay levels) m := by
  have more {m' : Moment} (h : c.bundle.Sends (c.bundle.underWay levels) m m') :
      c.bundle.Sends (0 + c.bundle.underWay levels) m m' := h.mono (Nat.le_add_left _ _)
  cases h with
  | unknown hm => exact (Bundle.Sends.refl m).mono (Nat.zero_le _)
  | kept hm hk => exact .refl m
  | notAcquired hm hk hs ho =>
    obtain ⟨-, hmethod⟩ := Setup.method_eq_ok hm
    exact more ((Runner.Ensures.of_outcome hn ho).failed hmethod hs)
  | incomplete hm hk ha hf hmissing =>
    obtain ⟨-, hmethod⟩ := Setup.method_eq_ok hm
    exact more (ha.sends hn hmethod).2
  | obtained hm hk ha hf hmissing =>
    obtain ⟨-, hmethod⟩ := Setup.method_eq_ok hm
    -- its key is still absent, so what it pays for was not paid for before
    exact (ha.sends hn hmethod).1.keep hmethod (ha.leaves_absent hmethod hk) _

/-- Credentials that were had have paid for themselves; of those that fail, one was under way. -/
theorem CredentialsRun.sends
    (hn : (c.playbookWithin levels depth).Ensures t fun _ => c.bundle.PlaybookSends levels)
    {auths : List String} {stack : ScopeStack} {result : AuthResult} {m : Moment}
    {o : Outcome AuthResult}
    (h : CredentialsRun c t (c.playbookWithin levels depth) stack auths result m o) :
    o.Sends c.bundle 0 (c.bundle.underWay levels) m := by
  induction h with
  | done => exact .refl _
  | failed hc => exact hc.sends hn
  | next hc hr ih =>
    have hfirst : c.bundle.Sends 0 _ _ := hc.sends hn
    exact ih.behind hfirst

/-- A request is sent once, or not at all. -/
theorem RequestRun.sends {playbook : String} {index : Nat} {s : Stage} {outer : ScopeStack}
    {request : Request} {credentials : AuthResult} {m : Moment} {o : Outcome ScopeStack}
    (h : RequestRun c t playbook index s outer request credentials m o) :
    c.bundle.Sends 1 m o.after := by
  cases h with
  | variablesMissing hp hn => exact (Bundle.Sends.refl m).mono (Nat.zero_le 1)
  | notBuilt hp hn hb => exact (Bundle.Sends.refl m).mono (Nat.zero_le 1)
  | _ => exact .sending m _

/-- A stage sends one request of its own. -/
theorem StageRun.sends
    (hn : (c.playbookWithin levels depth).Ensures t fun _ => c.bundle.PlaybookSends levels)
    {playbook : String} {index : Nat} {s : Stage} {outer : ScopeStack} {m : Moment}
    {o : Outcome ScopeStack}
    (h : StageRun c t (c.playbookWithin levels depth) playbook index s outer m o) :
    o.Sends c.bundle 1 (c.bundle.underWay levels) m := by
  cases h with
  | noRequest hr => exact (Bundle.Sends.refl m).mono (Nat.zero_le _)
  | noCredentials hr hc =>
    have hfailed : c.bundle.Sends (0 + c.bundle.underWay levels) m _ := hc.sends hn
    exact hfailed.mono (by omega)
  | @ran ref request credentials trace m' o hr hc ho =>
    have hcredentials : c.bundle.Sends 0 m m' := hc.sends hn
    have hrequest : o.Sends c.bundle 1 (c.bundle.underWay levels) m' := by
      -- whether or not the request fails, it is a single one
      unfold Outcome.Sends
      split
      · exact ho.sends
      · exact ho.sends.mono (Nat.le_add_right _ _)
    exact hrequest.behind hcredentials

/-- Stages send one request each, and what was under way when one of them failed. -/
theorem StagesRun.sends
    (hn : (c.playbookWithin levels depth).Ensures t fun _ => c.bundle.PlaybookSends levels)
    {playbook : String} {stack assigned : ScopeStack} {index : Nat} {stages : List Stage}
    {m : Moment} {o : Outcome ScopeStack}
    (h : StagesRun c t (c.playbookWithin levels depth) playbook stack index assigned stages m o) :
    o.Sends c.bundle stages.length (c.bundle.underWay levels) m := by
  induction h with
  | done => exact .refl _
  | failed hs =>
    have hfailed : c.bundle.Sends (1 + c.bundle.underWay levels) _ _ := hs.sends hn
    exact hfailed.mono (by rw [List.length_cons]; omega)
  | next hs hr ih =>
    have hfirst : c.bundle.Sends 1 _ _ := hs.sends hn
    rw [List.length_cons, Nat.add_comm]
    exact ih.behind hfirst

end Rules

section Playbooks

variable (c : Setup) (t : Transport)

/-- By induction on the levels that are left; one level more lets one acquisition more be under way.
-/
theorem playbookWithin_sends (levels depth : Nat) :
    (c.playbookWithin levels depth).Ensures t fun _ => c.bundle.PlaybookSends levels := by
  refine playbookWithin_induction c t
    (P := fun levels _ => c.bundle.PlaybookSends levels) ?_ ?_ levels depth
  · intro name stages m
    exact ⟨rfl, .refl m⟩
  · intro levels depth ih name stages stack m o h
    cases h with
    | failed hs => exact hs.sends ih
    | finished hs => exact hs.sends ih

/-- The number of stages of playbooks. -/
def stageCount (ps : List Playbook) : Nat := (ps.map (·.stages.length)).sum

/-- What playbooks in turn send: the allowance of a failure is there once, since nothing is
run behind it. -/
theorem PlaybooksRun.sends {c : Setup} {t : Transport} {stack assigned v : ScopeStack}
    {ps : List Playbook} {m m' : Moment} {trace : List Event}
    (h : PlaybooksRun c t stack assigned ps m v trace m') :
    c.bundle.Sends
      (stageCount ps + if trace.any (·.isFailure) then 4 * c.bundle.longestAcquisition else 0)
      m m' := by
  have hn := playbookWithin_sends c t maxDepth 0
  induction h with
  | done => exact .refl _
  | @passedOver assigned v p rest m m' trace hp hr ih =>
    refine ih.mono ?_
    unfold stageCount
    rw [List.map_cons, List.sum_cons]
    omega
  | @halted assigned p rest m m' trace hp ho =>
    -- the playbook that fails ends the run, so what it had under way is added once
    have hfails : trace.any (·.isFailure) = true := by
      rw [List.any_eq_true]
      exact ((playbookAt_unwinds c t 0).failed ho).fails
    have hfailed : c.bundle.Sends (p.stages.length + c.bundle.underWay 4) m m' :=
      Runner.Ensures.of_outcome hn ho
    rw [if_pos hfails]
    refine hfailed.mono ?_
    unfold stageCount Bundle.underWay
    rw [List.map_cons, List.sum_cons]
    omega
  | @next assigned scopes v p rest m m' m'' trace trace' hp ho hr ih =>
    -- one that finishes has paid for all it acquired
    have hfirst : c.bundle.Sends p.stages.length m m' := Runner.Ensures.of_outcome hn ho
    refine (hfirst.trans ih).mono ?_
    unfold stageCount
    rw [List.map_cons, List.sum_cons, List.any_append]
    cases trace'.any (·.isFailure) with
    | true => simp [Nat.add_assoc]
    | false => simp [Nat.add_assoc]

/-- **A RUN SENDS LINEARLY MANY REQUESTS**: one for each stage of its playbooks, and one
for each stage by which a credential is acquired.  If it fails there may be as many more as
four acquisitions under way send. -/
theorem sending_runAll (values : RuntimeValues) (extra : ScopeStack) (ps : List Playbook) :
    ((c.runAll values extra ps).run t []).sent.length
      ≤ stageCount ps + c.bundle.acquisitionTotal
        + if ((c.runAll values extra ps).run t []).trace.any (·.isFailure)
          then 4 * c.bundle.longestAcquisition else 0 := by
  obtain ⟨m, hrun, hsent⟩ := playbooksRun_runAll c t values extra ps
  have hsends := hrun.sends
  unfold Bundle.Sends at hsends
  rw [Bundle.acquired_empty] at hsends
  have hpaid := c.bundle.acquired_le_total m.cache
  rw [hsent]
  simp only [List.length_nil] at hsends
  omega

end Playbooks

end ApiPlaybook
