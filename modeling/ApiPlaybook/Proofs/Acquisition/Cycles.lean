/-
  ApiPlaybook.Proofs.Acquisition.Cycles
  ─────────────────────────────────────
  **CREDENTIALS THAT NEED THEMSELVES.**

  A key from which a cycle of the acquisition graph can be reached needs another
  such key.  So these keys are circular, and no run obtains one of them, however
  many other credentials are kept on the way.  A stage whose request refers to
  one fails: between the start of the request and that failure the run only
  looks for credentials, and behind it there are only failures (`EndsAtNeed`).
-/
import ApiPlaybook.Proofs.Acquisition.Extent
import ApiPlaybook.Proofs.Acquisition.Ledger

namespace ApiPlaybook

/-! ## §1. Keys from which a cycle is reached. -/

/-- A cycle of the acquisition graph can be reached from the key. -/
def Bundle.ReachesCycle (b : Bundle) (key : CredentialKey) : Prop :=
  ∃ other, Relation.ReflTransGen b.Needs key other ∧ Relation.TransGen b.Needs other other

/-- The keys from which a cycle can be reached are circular: the first step towards the cycle ends
at another such key. -/
theorem Bundle.circular_reachesCycle (b : Bundle) : b.Circular b.ReachesCycle := by
  rintro key ⟨other, hpath, hcycle⟩
  rcases Relation.ReflTransGen.cases_head hpath with rfl | ⟨next, hstep, hrest⟩
  · -- the key lies on the cycle, and so does the next one
    obtain ⟨next, hstep, hrest⟩ := Relation.TransGen.head'_iff.mp hcycle
    exact ⟨next, hstep, key, hrest, hcycle⟩
  · exact ⟨next, hstep, other, hrest, hcycle⟩

/-! ## §2. Stages that need such a key. -/

/-- The request that an event starts refers to one of the keys. -/
def Event.NeedsOneOf (b : Bundle) (keys : CredentialKey → Prop) (request : Request) : Event → Prop
  | .requestStarted ref =>
    b.request? ref = some request ∧ ∃ key, keys key ∧ b.RefersTo request.references key
  | _ => False

/-- A request that is only just started has not failed. -/
theorem Event.NeedsOneOf.isFailure_eq {b : Bundle} {keys : CredentialKey → Prop}
    {request : Request} {e : Event} (h : e.NeedsOneOf b keys request) : e.isFailure = false := by
  cases e <;> first | rfl | cases h

/-- No request is started that refers to one of the keys. -/
def Spared (b : Bundle) (keys : CredentialKey → Prop) (trace : List Event) : Prop :=
  ∀ e ∈ trace, ∀ request, ¬ e.NeedsOneOf b keys request

/-- A balanced trace that does nothing outside the frames of some credentials. -/
structure OnlyCredentials (auths : List String) (trace : List Event) : Prop where
  balanced : Balanced trace
  opened : ∀ outer, ∀ p ∈ framed outer trace, p.1 = outer → ∃ auth ∈ auths, p.2 = .authStarted auth

/-- Whenever a request is started that refers to one of the keys, credentials are all
that its stage looks for until it fails, and only failures follow. -/
def EndsAtNeed (b : Bundle) (keys : CredentialKey → Prop) (trace : List Event) : Prop :=
  ∀ before e rest request, trace = before ++ e :: rest → e.NeedsOneOf b keys request →
    ∃ inner after,
      rest = inner ++ .prepareFailed (.credentialsUnavailable request.auth) :: after ∧
        OnlyCredentials request.references inner ∧ ∀ e' ∈ after, e'.isFailure = true

section Traces

variable {b : Bundle} {keys : CredentialKey → Prop} {x y : List Event}

theorem Spared.append (hx : Spared b keys x) (hy : Spared b keys y) : Spared b keys (x ++ y) :=
  List.forall_mem_append.mpr ⟨hx, hy⟩

/-- Where no request needs one of the keys, there is nothing to end at. -/
theorem Spared.endsAtNeed (h : Spared b keys x) : EndsAtNeed b keys x := by
  rintro before e rest request rfl hneeds
  exact absurd hneeds (h e (List.mem_append_right before List.mem_cons_self) request)

/-- Events of which none starts a request. -/
theorem Spared.of_forall (h : ∀ e ∈ x, ∀ ref, e ≠ .requestStarted ref) : Spared b keys x := by
  intro e he request hneeds
  cases e with
  | requestStarted ref => exact h _ he ref rfl
  | _ => exact hneeds

/-- A part that is spared may stand in front. -/
theorem EndsAtNeed.behind (hx : Spared b keys x) (hy : EndsAtNeed b keys y) :
    EndsAtNeed b keys (x ++ y) := by
  intro before e rest request ht hneeds
  rcases List.append_eq_append_iff.mp ht with ⟨z, -, hz⟩ | ⟨z, hz, hrest⟩
  · exact hy z e rest request hz hneeds
  · cases z with
    | nil => exact hy [] e rest request hrest.symm hneeds
    | cons d z =>
      -- the event would stand among those that are spared
      rw [List.cons_append] at hrest
      obtain ⟨rfl, -⟩ := List.cons.inj hrest
      refine absurd hneeds (hx e ?_ request)
      rw [hz]
      exact List.mem_append_right before List.mem_cons_self

/-- A failure is passed on. -/
theorem EndsAtNeed.before (hx : EndsAtNeed b keys x) (hy : ∀ e ∈ y, e.isFailure = true) :
    EndsAtNeed b keys (x ++ y) := by
  intro before e rest request ht hneeds
  have hnot : e ∉ y := by
    -- no failure starts a request
    intro he
    have hfailure := hy e he
    rw [hneeds.isFailure_eq] at hfailure
    cases hfailure
  rcases List.append_eq_append_iff.mp ht with ⟨z, -, hz⟩ | ⟨z, hz, hrest⟩
  · refine absurd ?_ hnot
    rw [hz]
    exact List.mem_append_right z List.mem_cons_self
  · cases z with
    | nil =>
      refine absurd ?_ hnot
      rw [show y = e :: rest from hrest.symm]
      exact List.mem_cons_self
    | cons d z =>
      rw [List.cons_append] at hrest
      obtain ⟨rfl, rfl⟩ := List.cons.inj hrest
      obtain ⟨inner, after, rfl, hb, hafter⟩ := hx before e z request hz hneeds
      exact ⟨inner, after ++ y, by rw [List.append_assoc]; rfl, hb,
        List.forall_mem_append.mpr ⟨hafter, hy⟩⟩

theorem OnlyCredentials.nil {auths : List String} : OnlyCredentials auths [] := by
  refine ⟨.nil, ?_⟩
  intro outer p hp
  cases hp

/-- The credentials of one list and then those of another. -/
theorem OnlyCredentials.append {auths auths' : List String} (hx : OnlyCredentials auths x)
    (hy : OnlyCredentials auths' y) : OnlyCredentials (auths ++ auths') (x ++ y) := by
  refine ⟨hx.balanced.append hy.balanced, ?_⟩
  intro outer p hp hbase
  rw [framed_append, hx.balanced] at hp
  rcases List.mem_append.mp hp with hp | hp
  · obtain ⟨auth, ha, he⟩ := hx.opened outer p hp hbase
    exact ⟨auth, List.mem_append_left _ ha, he⟩
  · obtain ⟨auth, ha, he⟩ := hy.opened outer p hp hbase
    exact ⟨auth, List.mem_append_right _ ha, he⟩

/-- Behind its start a credential is in its own frame until it is closed. -/
theorem OnlyCredentials.credential {n : Nat} {auth : String}
    (hb : Balanced ([.authStarted auth] ++ x)) (hw : Within n x) :
    OnlyCredentials [auth] ([.authStarted auth] ++ x) := by
  refine ⟨hb, ?_⟩
  intro outer p hp hbase
  rcases List.mem_cons.mp hp with rfl | hp
  · exact ⟨auth, List.mem_singleton_self auth, rfl⟩
  · -- all later events have that frame around them, so the frames are more than before
    obtain ⟨inner, hinner, -⟩ := hw (.credential auth :: outer) p hp
    have hlength := congrArg List.length (hinner.symm.trans hbase)
    rw [List.length_append, List.length_cons] at hlength
    omega

end Traces

section Rules

variable {c : Setup} {t : Transport} {nested : Runner} {keys : CredentialKey → Prop} {n : Nat}

/-- The playbooks that a runner runs, from a cache that lacks the keys: those that
finish are spared, and those that fail end at the first need. -/
def Runner.EndsAtNeed (nested : Runner) (b : Bundle) (t : Transport)
    (keys : CredentialKey → Prop) : Prop :=
  nested.Ensures t fun _ _ m o => m.cache.Lacks keys →
    o.Keeps (Spared b keys) (ApiPlaybook.EndsAtNeed b keys)

/-- An acquisition that succeeds has started no request that needs one of the keys. -/
theorem AcquisitionRun.spared_requests {b : Bundle} (hn : nested.EndsAtNeed b t keys)
    {auth : String} {method : CredentialMethod} {stack scopes : ScopeStack} {m m' : Moment}
    {trace : List Event} (hm : m.cache.Lacks keys)
    (h : AcquisitionRun t nested auth method stack m scopes trace m') : Spared b keys trace := by
  cases h with
  | direct hs => exact .of_forall (by simp)
  | staged hs ho => exact hn.of_outcome ho hm

/-- A credential starts no request itself; those of its playbook end at need. -/
theorem CredentialRun.endsAtNeed (hn : nested.EndsAtNeed c.bundle t keys) {auth : String}
    {stack : ScopeStack} {m : Moment} {o : Outcome ResolvedCredential}
    (hm : m.cache.Lacks keys) (h : CredentialRun c t nested stack auth m o) :
    o.Keeps (Spared c.bundle keys) (EndsAtNeed c.bundle keys) := by
  have started : Spared c.bundle keys [.authStarted auth] := .of_forall (by simp)
  cases h with
  | unknown hmethod => exact Spared.endsAtNeed (.of_forall (by simp))
  | kept hmethod hk => exact Spared.of_forall (by simp)
  | notAcquired hmethod hk hs ho =>
    have h : EndsAtNeed c.bundle keys _ := hn.of_outcome ho hm
    exact (EndsAtNeed.behind started h).before (by simp [Event.isFailure])
  | incomplete hmethod hk ha hf hmissing =>
    exact ((started.append (ha.spared_requests hn hm)).append
      (.of_forall (by simp))).endsAtNeed
  | obtained hmethod hk ha hf hmissing =>
    exact (started.append (ha.spared_requests hn hm)).append (.of_forall (by simp))

/-- Whatever is reported for a credential stands between its start and its end. -/
theorem CredentialRun.onlyCredentials (he : nested.Enclosed t n) {auth : String}
    {stack : ScopeStack} {m : Moment} {o : Outcome ResolvedCredential}
    (h : CredentialRun c t nested stack auth m o) : OnlyCredentials [auth] o.trace := by
  have hbalanced := (h.enclosed he).balanced
  cases h with
  | unknown hm => exact .credential hbalanced (.single (n := n) _)
  | kept hm hk => exact .credential hbalanced (.flat (n := n) (by simp [Event.framesAfter]))
  -- what is acquired is balanced, and stands inside the credential
  | notAcquired hm hk hs ho =>
    rw [List.append_assoc] at hbalanced ⊢
    have h := he.of_outcome ho
    exact .credential hbalanced (.append h.balanced h.within (.single _))
  | incomplete hm hk ha hf hmissing =>
    rw [List.append_assoc] at hbalanced ⊢
    have h := ha.enclosed he
    exact .credential hbalanced
      (.append h.balanced h.within (.flat (by simp [Event.framesAfter])))
  | obtained hm hk ha hf hmissing =>
    rw [List.append_assoc] at hbalanced ⊢
    have h := ha.enclosed he
    exact .credential hbalanced
      (.append h.balanced h.within (.flat (by simp [Event.framesAfter])))

theorem CredentialsRun.onlyCredentials (he : nested.Enclosed t n) {auths : List String}
    {stack : ScopeStack} {result : AuthResult} {m : Moment} {o : Outcome AuthResult}
    (h : CredentialsRun c t nested stack auths result m o) : OnlyCredentials auths o.trace := by
  induction h with
  | done => exact .nil
  | @failed auth rest _ _ _ trace h =>
    have h := (h.onlyCredentials he).append (.nil : OnlyCredentials rest [])
    rw [List.append_nil] at h
    exact h
  | next h hr ih => exact (h.onlyCredentials he).append ih

/-- The credentials before the one that fails lack the keys, and so does the moment they leave. -/
theorem CredentialsRun.endsAtNeed (hn : nested.EndsAtNeed c.bundle t keys)
    (ha : nested.Avoids c.bundle t keys) (hc : c.bundle.Circular keys) {auths : List String}
    {stack : ScopeStack} {result : AuthResult} {m : Moment} {o : Outcome AuthResult}
    (hm : m.cache.Lacks keys) (h : CredentialsRun c t nested stack auths result m o) :
    o.Keeps (Spared c.bundle keys) (EndsAtNeed c.bundle keys) := by
  induction h with
  | done => exact Spared.of_forall (by simp)
  | failed h => exact h.endsAtNeed hn hm
  | @next _ _ _ _ _ _ _ _ _ v h hr ih =>
    have hfirst : Spared c.bundle keys _ := h.endsAtNeed hn hm
    have hrest := ih (h.avoids ha hc hm).lacks
    cases v with
    | some v =>
      show Spared c.bundle keys (_ ++ _)
      exact hfirst.append hrest
    | none =>
      show EndsAtNeed c.bundle keys (_ ++ _)
      exact .behind hfirst hrest

/-- Delivering a request starts no other one. -/
theorem RequestRun.no_requestStarted {playbook : String} {index : Nat} {s : Stage}
    {outer : ScopeStack} {request : Request} {credentials : AuthResult} {m : Moment}
    {o : Outcome ScopeStack}
    (h : RequestRun c t playbook index s outer request credentials m o) :
    Spared c.bundle keys o.trace := by
  cases h <;> exact .of_forall (by simp [Payload.report])

/-- **ONE STAGE**: if its request needs one of the keys, it fails while looking for credentials. -/
theorem StageRun.endsAtNeed (hn : nested.EndsAtNeed c.bundle t keys)
    (ha : nested.Avoids c.bundle t keys) (hc : c.bundle.Circular keys)
    (he : nested.Enclosed t n) {playbook : String} {index : Nat} {s : Stage}
    {outer : ScopeStack} {m : Moment} {o : Outcome ScopeStack} (hm : m.cache.Lacks keys)
    (h : StageRun c t nested playbook index s outer m o) :
    o.Keeps (Spared c.bundle keys) (EndsAtNeed c.bundle keys) := by
  cases h with
  | noRequest hr => exact Spared.endsAtNeed (.of_forall (by simp))
  | @noCredentials ref request trace m' hr h =>
    obtain ⟨-, hrequest⟩ := stageRequest_eq_ok c hr
    have hcredentials : EndsAtNeed c.bundle keys trace := h.endsAtNeed hn ha hc hm
    have hfailed : EndsAtNeed c.bundle keys
        (trace ++ [.prepareFailed (.credentialsUnavailable request.auth)]) :=
      hcredentials.before (by simp [Event.isFailure])
    show EndsAtNeed c.bundle keys ([.requestStarted ref] ++ trace ++ _)
    rw [List.append_assoc]
    intro before e rest request' ht hneeds
    cases before with
    | nil =>
      -- the request of this stage
      obtain ⟨rfl, rfl⟩ := List.cons.inj ht
      obtain ⟨hrequest', -⟩ := hneeds
      rw [hrequest] at hrequest'
      cases hrequest'
      exact ⟨trace, [], rfl, h.onlyCredentials he, by simp⟩
    | cons d before =>
      obtain ⟨-, ht⟩ := List.cons.inj ht
      exact hfailed before e rest request' ht hneeds
  | @ran ref request credentials trace m' o hr h ho =>
    obtain ⟨-, hrequest⟩ := stageRequest_eq_ok c hr
    have hcredentials : Spared c.bundle keys trace := h.endsAtNeed hn ha hc hm
    -- its credentials were had, so its request refers to none of the keys
    have hstarted : Spared c.bundle keys [.requestStarted ref] := by
      intro e hmem request' hneeds
      cases List.mem_singleton.mp hmem
      obtain ⟨hrequest', key, hkey, hneeds⟩ := hneeds
      rw [hrequest] at hrequest'
      cases hrequest'
      exact (h.avoids ha hc hm).spared rfl key hkey hneeds
    have hspared := (hstarted.append hcredentials).append ho.no_requestStarted
    obtain ⟨v, trace', m''⟩ := o
    cases v with
    | some v =>
      show Spared c.bundle keys ([.requestStarted ref] ++ trace ++ trace')
      exact hspared
    | none =>
      show EndsAtNeed c.bundle keys ([.requestStarted ref] ++ trace ++ trace')
      exact hspared.endsAtNeed

/-- The stages before the one that fails are spared, and leave the keys absent. -/
theorem StagesRun.endsAtNeed (hn : nested.EndsAtNeed c.bundle t keys)
    (ha : nested.Avoids c.bundle t keys) (hc : c.bundle.Circular keys)
    (he : nested.Enclosed t n) {playbook : String} {stack assigned : ScopeStack} {index : Nat}
    {stages : List Stage} {m : Moment} {o : Outcome ScopeStack} (hm : m.cache.Lacks keys)
    (h : StagesRun c t nested playbook stack index assigned stages m o) :
    o.Keeps (Spared c.bundle keys) (EndsAtNeed c.bundle keys) := by
  induction h with
  | done => exact Spared.of_forall (by simp)
  | failed h => exact h.endsAtNeed hn ha hc he hm
  | @next _ _ _ _ _ _ _ _ _ _ v h hr ih =>
    have hfirst : Spared c.bundle keys _ := h.endsAtNeed hn ha hc he hm
    have hrest := ih (h.avoids ha hc hm).lacks
    cases v with
    | some v =>
      show Spared c.bundle keys (_ ++ _)
      exact hfirst.append hrest
    | none =>
      show EndsAtNeed c.bundle keys (_ ++ _)
      exact .behind hfirst hrest

/-- A playbook adds its start and its end, which are no requests. -/
theorem PlaybookRun.endsAtNeed (hn : nested.EndsAtNeed c.bundle t keys)
    (ha : nested.Avoids c.bundle t keys) (hc : c.bundle.Circular keys)
    (he : nested.Enclosed t n) {name : String} {stages : List Stage} {stack : ScopeStack}
    {m : Moment} {o : Outcome ScopeStack} (hm : m.cache.Lacks keys)
    (h : PlaybookRun c t nested name stages stack m o) :
    o.Keeps (Spared c.bundle keys) (EndsAtNeed c.bundle keys) := by
  have started : Spared c.bundle keys [.playbookStarted name] := .of_forall (by simp)
  cases h with
  | failed hs => exact EndsAtNeed.behind started (hs.endsAtNeed hn ha hc he hm)
  | finished hs =>
    have h : Spared c.bundle keys _ := hs.endsAtNeed hn ha hc he hm
    exact (started.append h).append (.of_forall (by simp))

end Rules

section Playbooks

variable (c : Setup) (t : Transport)

/-- By induction on the levels that are left, every playbook ends at need. -/
theorem playbookWithin_endsAtNeed {keys : CredentialKey → Prop} (hc : c.bundle.Circular keys)
    (levels depth : Nat) : (c.playbookWithin levels depth).EndsAtNeed c.bundle t keys := by
  refine playbookWithin_induction c t
    (P := fun _ _ _ m o => m.cache.Lacks keys →
      o.Keeps (Spared c.bundle keys) (EndsAtNeed c.bundle keys))
    ?_ ?_ levels depth
  · intro name stages m hm
    exact Spared.endsAtNeed (.of_forall (by simp [Outcome.tooDeep]))
  · intro levels depth ih name stages stack m o h hm
    exact h.endsAtNeed ih (playbookWithin_avoids c t hc levels (depth + 1)) hc
      (playbookWithin_enclosed c t levels (depth + 1)) hm

/-- So does a run of playbooks, and the keys are absent from the cache it leaves. -/
theorem PlaybooksRun.endsAtNeed {c : Setup} {t : Transport} {keys : CredentialKey → Prop}
    (hc : c.bundle.Circular keys) {stack assigned v : ScopeStack} {ps : List Playbook}
    {m m' : Moment} {trace : List Event} (hm : m.cache.Lacks keys)
    (h : PlaybooksRun c t stack assigned ps m v trace m') :
    EndsAtNeed c.bundle keys trace ∧ m'.cache.Lacks keys := by
  have playbook := playbookWithin_endsAtNeed c t hc maxDepth 0
  have avoids := playbookWithin_avoids c t hc maxDepth 0
  induction h with
  | done => exact ⟨Spared.endsAtNeed (.of_forall (by simp)), hm⟩
  | passedOver hp hr ih => exact ih hm
  | halted hp hn => exact ⟨playbook.of_outcome hn hm, (avoids.of_outcome hn hm).lacks⟩
  | next hp hn hr ih =>
    obtain ⟨hends, hlacks⟩ := ih (avoids.of_outcome hn hm).lacks
    have hspared : Spared c.bundle keys _ := playbook.of_outcome hn hm
    exact ⟨.behind hspared hends, hlacks⟩

end Playbooks

/-! ## §3. Whole runs. -/

/-- What a run of playbooks shows: it is bounded, and no key is obtained from which a
cycle is reached. -/
structure EndsDespiteCycles (b : Bundle) (ps : List Playbook) (ran : Ran ScopeStack) : Prop where
  /-- The length of the trace is bounded by the bundle and the playbooks alone. -/
  trace_length : ran.trace.length ≤ b.runExtent ps
  sent_length : ran.sent.length ≤ ran.trace.length
  /-- However far the run has come, few playbooks are open. -/
  open_le : ∀ before rest, ran.trace = before ++ rest →
    openPlaybooks (framesAfter [] before) ≤ maxDepth + 1
  /-- Such a key is never kept. -/
  absent : ∀ key, b.ReachesCycle key → ∀ before rest, ran.trace = before ++ rest →
    (cacheAfter b .empty before).get? key = none
  /-- No credential of such a key is finished. -/
  unfinished : ∀ key, b.ReachesCycle key → ∀ auth outer, b.key? auth = some key →
    (.credential auth :: outer, .authFinished) ∉ framed [] ran.trace
  /-- A stage that needs such a key fails to get its credentials, and ends the run. -/
  ends : EndsAtNeed b b.ReachesCycle ran.trace

/-- **CREDENTIALS THAT NEED THEMSELVES ARE NEVER OBTAINED**, and every run ends: for
every bundle, every environment and every transport. -/
theorem endsDespiteCycles_runAll (c : Setup) (t : Transport) (values : RuntimeValues)
    (extra : ScopeStack) (ps : List Playbook) :
    EndsDespiteCycles c.bundle ps ((c.runAll values extra ps).run t []) := by
  obtain ⟨m, h, hsent⟩ := playbooksRun_runAll c t values extra ps
  have hrecords := h.records
  -- a run starts with nothing kept, so it lacks every key
  have hlacks : CredentialCache.empty.Lacks c.bundle.ReachesCycle := fun _ _ => rfl
  obtain ⟨hends, hafter⟩ := h.endsAtNeed c.bundle.circular_reachesCycle hlacks
  refine ⟨h.bounded.length_le, ?_, ?_, ?_, ?_, hends⟩
  · rw [hsent]
    simpa using h.bounded.sent_le
  · intro before rest ht
    have henclosed := h.enclosed
    rw [ht] at henclosed
    exact henclosed.openPlaybooks_le
  · intro key hkey before rest ht
    -- what is kept at some time is kept to the end
    have hlawful := hrecords.lawful
    rw [ht] at hlawful
    refine ((lawful_append before rest).mp hlawful).2.within key ?_
    rw [← cacheAfter_append, ← ht, hrecords.after]
    exact hafter key hkey
  · intro key hkey auth outer hauth hmem
    exact (hrecords.settled [] _ hmem auth outer key rfl hauth).1 rfl (hafter key hkey)

end ApiPlaybook
