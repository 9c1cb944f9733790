/-
  ApiPlaybook.Proofs.Acquisition.Once
  ───────────────────────────────────
  **EACH CREDENTIAL IS OBTAINED AT MOST ONCE.**

  A template is filled in only for an absent key.  If nothing is missing the key
  is kept from then on; if something is missing the run fails.  So no key is
  substituted twice (`substitutedKeys_nodup`), and as each playbook that
  acquires a credential is followed by its substitution, none of them finishes
  twice for one key (`Acquires`).
-/
import ApiPlaybook.Proofs.Acquisition.Ledger

namespace ApiPlaybook

/-! ## §1. No key is substituted twice. -/

/-- The keys whose templates were filled in, in the order of the trace. -/
def substitutedKeys (b : Bundle) (trace : List Event) : List CredentialKey :=
  trace.filterMap (Event.substituted? b)

/-- The entries that were put into the cache. -/
def obtainedEntries (b : Bundle) (trace : List Event) : List (CredentialKey × String) :=
  trace.filterMap (Event.obtained? b)

/-- The substitutions of two parts, one after the other. -/
theorem substitutedKeys_append (b : Bundle) (x y : List Event) :
    substitutedKeys b (x ++ y) = substitutedKeys b x ++ substitutedKeys b y :=
  List.filterMap_append

/-- A substitution counts for the key of its reference, if there is one. -/
theorem substitutedKeys_credentialSubstituted (b : Bundle) (auth value : String)
    (stack : ScopeStack) (found : List FoundVariable) (missing : List MissingVariable) :
    substitutedKeys b [.credentialSubstituted auth value stack found missing]
      = (b.key? auth).toList := by
  unfold substitutedKeys
  simp only [List.filterMap_cons, List.filterMap_nil, Event.substituted?]
  cases b.key? auth <;> rfl

theorem Event.substituted?_of_isFailure {b : Bundle} {e : Event} (h : e.isFailure = true) :
    e.substituted? b = none := by
  cases e <;> first | rfl | cases h

/-- A template that was filled in without the key being kept: something was missing. -/
theorem Event.isClosing_of_not_obtained {b : Bundle} {e : Event} {key : CredentialKey}
    (hs : e.substituted? b = some key) (ho : e.obtained? b = none) : e.isClosing = true := by
  cases e with
  | credentialSubstituted auth value stack found missing =>
    have hs : b.key? auth = some key := hs
    by_cases hm : missing = []
    · simp [Event.obtained?, hm, hs] at ho
    · simpa [Event.isClosing] using hm
  | _ => cases hs

/-- In a lawful trace only keys are substituted that were absent when it started. -/
theorem substitutedKeys_absent {b : Bundle} {cache : CredentialCache} {trace : List Event}
    (h : Lawful b cache trace) :
    ∀ key ∈ substitutedKeys b trace, cache.get? key = none := by
  intro key hk
  obtain ⟨e, he, hs⟩ := List.mem_filterMap.mp hk
  obtain ⟨before, rest, rfl⟩ := List.append_of_mem he
  have hbefore := ((lawful_append before (e :: rest)).mp h).1
  exact hbefore.within key (h.at.substituted key hs).2

/-- **NO KEY IS SUBSTITUTED TWICE**, if only failures follow what fails. -/
theorem substitutedKeys_nodup {b : Bundle} {cache : CredentialCache} {trace : List Event}
    (h : Lawful b cache trace)
    (hu : ∀ before e rest, trace = before ++ e :: rest → e.isClosing = true →
      ∀ e' ∈ rest, e'.isFailure = true) :
    (substitutedKeys b trace).Nodup := by
  induction trace generalizing cache with
  | nil => exact List.nodup_nil
  | cons e rest ih =>
    have hrest := ih h.2 fun before d after hd =>
      hu (e :: before) d after (by rw [hd, List.cons_append])
    cases hs : e.substituted? b with
    | none =>
      have hkeys : substitutedKeys b (e :: rest) = substitutedKeys b rest :=
        List.filterMap_cons_none hs
      rw [hkeys]
      exact hrest
    | some key =>
      have hkeys : substitutedKeys b (e :: rest) = key :: substitutedKeys b rest :=
        List.filterMap_cons_some hs
      rw [hkeys]
      refine List.nodup_cons.mpr ⟨?_, hrest⟩
      intro hmem
      cases ho : e.obtained? b with
      | some entry =>
        -- the key is kept now, so it is not absent behind the event
        obtain ⟨key', value⟩ := entry
        have habsent := substitutedKeys_absent h.2 key hmem
        have hkey := Event.substituted?_of_obtained ho
        rw [hs] at hkey
        cases hkey
        rw [Event.cacheAfter_of_obtained ho, CredentialCache.get?_insert, if_pos rfl] at habsent
        cases habsent
      | none =>
        -- something was missing, and nothing is substituted by failures
        obtain ⟨e', he', hs'⟩ := List.mem_filterMap.mp hmem
        have hfail := hu [] e rest rfl (Event.isClosing_of_not_obtained hs ho) e' he'
        rw [Event.substituted?_of_isFailure hfail] at hs'
        cases hs'

/-- The keys that are obtained are among those that are substituted, in the same order. -/
theorem obtainedEntries_sublist (b : Bundle) (trace : List Event) :
    ((obtainedEntries b trace).map (·.1)).Sublist (substitutedKeys b trace) := by
  -- each entry comes from a substitution; those with values missing give none
  induction trace with
  | nil => exact .slnil
  | cons e rest ih =>
    cases ho : e.obtained? b with
    | some entry =>
      obtain ⟨key, value⟩ := entry
      have hs := Event.substituted?_of_obtained ho
      unfold obtainedEntries substitutedKeys
      rw [List.filterMap_cons_some ho, List.filterMap_cons_some hs]
      exact ih.cons_cons key
    | none =>
      have hentries : obtainedEntries b (e :: rest) = obtainedEntries b rest :=
        List.filterMap_cons_none ho
      have htail : (substitutedKeys b rest).Sublist (substitutedKeys b (e :: rest)) :=
        (List.sublist_cons_self e rest).filterMap _
      rw [hentries]
      exact ih.trans htail

/-! ## §2. No credential is acquired twice. -/

/-- The key of the credential that the innermost frame is about. -/
def acquiredFor? (b : Bundle) : List Frame → Option CredentialKey
  | .credential auth :: _ => b.key? auth
  | _ => none

/-- The key for which a playbook that finishes was run. -/
def finishedFor? (b : Bundle) : List Frame × Event → Option CredentialKey
  | (.playbook _ :: outer, .playbookFinished) => acquiredFor? b outer
  | _ => none

/-- The keys for which playbooks finished, in the order of the trace. -/
def finishedKeys (b : Bundle) (outer : List Frame) (trace : List Event) : List CredentialKey :=
  (framed outer trace).filterMap (finishedFor? b)

/-- Each playbook that finished for a key is followed by the substitution of that key. -/
def Acquires (b : Bundle) (trace : List Event) : Prop :=
  ∀ outer, (finishedKeys b outer trace).Sublist (substitutedKeys b trace)

/-- Behind a part, playbooks finish in the frames that it leaves. -/
theorem finishedKeys_append (b : Bundle) (outer : List Frame) (x y : List Event) :
    finishedKeys b outer (x ++ y)
      = finishedKeys b outer x ++ finishedKeys b (framesAfter outer x) y := by
  unfold finishedKeys
  rw [framed_append, List.filterMap_append]

/-- Without the end of a playbook none finishes. -/
theorem finishedKeys_eq_nil {b : Bundle} {x : List Event} (h : ∀ e ∈ x, e ≠ .playbookFinished)
    (outer : List Frame) : finishedKeys b outer x = [] := by
  refine List.filterMap_eq_nil_iff.mpr fun p hp => ?_
  obtain ⟨frames, e⟩ := p
  have he := h e (event_mem_of_framed hp)
  unfold finishedFor?
  split
  · next heq =>
    cases heq
    exact absurd rfl he
  · rfl

/-- What events before a part open stays open around it. -/
theorem finishedKeys_behind {b : Bundle} {x : List Event} (h : ∀ e ∈ x, e ≠ .playbookFinished)
    (outer : List Frame) (y : List Event) :
    finishedKeys b outer (x ++ y) = finishedKeys b (framesAfter outer x) y := by
  rw [finishedKeys_append, finishedKeys_eq_nil h, List.nil_append]

/-- A playbook that finishes counts for the credential around it. -/
theorem finishedKeys_playbookFinished (b : Bundle) (name : String) (outer : List Frame) :
    finishedKeys b (.playbook name :: outer) [.playbookFinished]
      = (acquiredFor? b outer).toList := by
  unfold finishedKeys
  simp only [framed, List.filterMap_cons, List.filterMap_nil, finishedFor?]
  cases acquiredFor? b outer <;> rfl

namespace Acquires

variable {b : Bundle} {x y : List Event}

theorem nil : Acquires b [] := fun _ => .slnil

theorem append (hb : Balanced x) (hx : Acquires b x) (hy : Acquires b y) :
    Acquires b (x ++ y) := by
  intro outer
  rw [finishedKeys_append, hb, substitutedKeys_append]
  exact (hx outer).append (hy outer)

/-- Events before a part, and what they open stays open around it. -/
theorem behind (hx : ∀ e ∈ x, e ≠ .playbookFinished) (hy : Acquires b y) :
    Acquires b (x ++ y) := by
  intro outer
  rw [finishedKeys_behind hx, substitutedKeys_append]
  exact (hy _).trans (List.sublist_append_right _ _)

/-- Events behind a part, whether that succeeded or failed. -/
theorem before (hx : Acquires b x) (hy : ∀ e ∈ y, e ≠ .playbookFinished) :
    Acquires b (x ++ y) := by
  intro outer
  rw [finishedKeys_append, finishedKeys_eq_nil hy, List.append_nil, substitutedKeys_append]
  exact (hx outer).trans (List.sublist_append_left _ _)

/-- A part in which no playbook finishes has none to make up for. -/
theorem of_forall (hx : ∀ e ∈ x, e ≠ .playbookFinished) : Acquires b x := by
  have h := behind hx (.nil : Acquires b [])
  rw [List.append_nil] at h
  exact h

end Acquires

section Rules

variable {c : Setup} {t : Transport} {nested : Runner} {n : Nat}

/-- The playbooks that a runner runs: one that finishes counts for the credential
around it, and is not yet followed by the substitution. -/
def Runner.Acquires (nested : Runner) (b : Bundle) (t : Transport) : Prop :=
  nested.Keeps t
    (fun _ _ trace => ∀ outer, (finishedKeys b outer trace).Sublist
      (substitutedKeys b trace ++ (acquiredFor? b outer).toList))
    (fun _ _ trace => ApiPlaybook.Acquires b trace)

/-- The playbook of a credential is the one that is left over, to be made up for by the
substitution. -/
theorem AcquisitionRun.finishedKeys {b : Bundle} (hn : nested.Acquires b t) {auth : String}
    {method : CredentialMethod} {stack scopes : ScopeStack} {m m' : Moment} {trace : List Event}
    (h : AcquisitionRun t nested auth method stack m scopes trace m') (outer : List Frame) :
    (finishedKeys b outer trace).Sublist
      (substitutedKeys b trace ++ (acquiredFor? b outer).toList) := by
  cases h with
  | direct hs => exact List.nil_sublist _
  | staged hs ho => exact hn.done ho outer

/-- The substitution that follows makes up for the playbook that finished. -/
theorem AcquisitionRun.acquires {b : Bundle} (hn : nested.Acquires b t) {auth : String}
    {method : CredentialMethod} {stack scopes : ScopeStack} {m m' : Moment} {trace : List Event}
    (h : AcquisitionRun t nested auth method stack m scopes trace m') (value : String)
    (found : List FoundVariable) (missing : List MissingVariable) {last : Event}
    (hlast : last ≠ .playbookFinished) (hs : last.substituted? b = none) :
    Acquires b ([.authStarted auth] ++ trace
      ++ [.credentialSubstituted auth value scopes found missing, last]) := by
  intro outer
  have hkeys : substitutedKeys b ([.authStarted auth] ++ trace
      ++ [.credentialSubstituted auth value scopes found missing, last])
        = substitutedKeys b trace ++ (b.key? auth).toList := by
    rw [substitutedKeys_append, substitutedKeys_append]
    have hending : substitutedKeys b [.credentialSubstituted auth value scopes found missing, last]
        = (b.key? auth).toList := by
      have hlast : substitutedKeys b [last] = [] := List.filterMap_cons_none hs
      rw [← List.singleton_append, substitutedKeys_append, hlast, List.append_nil]
      exact substitutedKeys_credentialSubstituted b auth value scopes found missing
    rw [hending]
    rfl
  have hending : ∀ e ∈ [Event.credentialSubstituted auth value scopes found missing, last],
      e ≠ .playbookFinished := by
    simpa using hlast
  -- the start of the credential is the frame for which its playbook counts
  rw [hkeys, finishedKeys_append, finishedKeys_eq_nil hending, List.append_nil,
    finishedKeys_behind (by simp)]
  exact h.finishedKeys hn (.credential auth :: outer)

/-- A credential makes up for its playbook, or fails inside it. -/
theorem CredentialRun.acquires (hn : nested.Acquires c.bundle t) {auth : String}
    {stack : ScopeStack} {m : Moment} {o : Outcome ResolvedCredential}
    (h : CredentialRun c t nested stack auth m o) : Acquires c.bundle o.trace := by
  cases h with
  | unknown hm => exact .of_forall (by simp)
  | kept hm hk => exact .of_forall (by simp)
  | notAcquired hm hk hs ho =>
    rw [List.append_assoc]
    exact .behind (by simp) ((hn.failed ho).before (by simp))
  | incomplete hm hk ha hf hmissing => exact ha.acquires hn _ _ _ (by simp) rfl
  | obtained hm hk ha hf hmissing => exact ha.acquires hn _ _ _ (by simp) rfl

theorem CredentialsRun.acquires (hn : nested.Acquires c.bundle t) (he : nested.Enclosed t n)
    {auths : List String} {stack : ScopeStack} {result : AuthResult} {m : Moment}
    {o : Outcome AuthResult} (h : CredentialsRun c t nested stack auths result m o) :
    Acquires c.bundle o.trace := by
  induction h with
  | done => exact .nil
  | failed h => exact h.acquires hn
  | next h hr ih => exact .append (h.enclosed he).balanced (h.acquires hn) ih

/-- No playbook finishes while a request is delivered. -/
theorem RequestRun.acquires {playbook : String} {index : Nat} {s : Stage} {outer : ScopeStack}
    {request : Request} {credentials : AuthResult} {m : Moment} {o : Outcome ScopeStack}
    (h : RequestRun c t playbook index s outer request credentials m o) :
    Acquires c.bundle o.trace := by
  cases h <;> exact .of_forall (by simp [Payload.report])

/-- A stage makes up for the playbooks of its credentials. -/
theorem StageRun.acquires (hn : nested.Acquires c.bundle t) (he : nested.Enclosed t n)
    {playbook : String} {index : Nat} {s : Stage} {outer : ScopeStack} {m : Moment}
    {o : Outcome ScopeStack} (h : StageRun c t nested playbook index s outer m o) :
    Acquires c.bundle o.trace := by
  cases h with
  | noRequest hr => exact .of_forall (by simp)
  | noCredentials hr hc =>
    rw [List.append_assoc]
    exact .behind (by simp) ((hc.acquires hn he).before (by simp))
  | ran hr hc ho =>
    rw [List.append_assoc]
    exact .behind (by simp) (.append (hc.enclosed he).balanced (hc.acquires hn he) ho.acquires)

theorem StagesRun.acquires (hn : nested.Acquires c.bundle t) (he : nested.Enclosed t n)
    {playbook : String} {stack assigned : ScopeStack} {index : Nat} {stages : List Stage}
    {m : Moment} {o : Outcome ScopeStack}
    (h : StagesRun c t nested playbook stack index assigned stages m o) :
    Acquires c.bundle o.trace := by
  induction h with
  | done => exact .nil
  | failed h => exact h.acquires hn he
  | next h hr ih => exact .append (h.enclosed he).frames (h.acquires hn he) ih

/-- A playbook that finishes is left over itself; one that fails is not. -/
theorem PlaybookRun.acquires (hn : nested.Acquires c.bundle t) (he : nested.Enclosed t n)
    {name : String} {stages : List Stage} {stack : ScopeStack} {m : Moment}
    {o : Outcome ScopeStack} (h : PlaybookRun c t nested name stages stack m o) :
    o.Keeps
      (fun trace => ∀ outer, (finishedKeys c.bundle outer trace).Sublist
        (substitutedKeys c.bundle trace ++ (acquiredFor? c.bundle outer).toList))
      (Acquires c.bundle) := by
  cases h with
  | failed hs => exact Acquires.behind (by simp) (hs.acquires hn he)
  | @finished assigned trace m' hs =>
    intro outer
    have hbalanced : Balanced trace := (hs.enclosed he).frames
    have hkeys : finishedKeys c.bundle outer
        ([.playbookStarted name] ++ trace ++ [.playbookFinished])
          = finishedKeys c.bundle (.playbook name :: outer) trace
            ++ (acquiredFor? c.bundle outer).toList := by
      rw [List.append_assoc, finishedKeys_behind (by simp), finishedKeys_append, hbalanced]
      exact congrArg _ (finishedKeys_playbookFinished c.bundle name outer)
    have hsubstituted : substitutedKeys c.bundle
        ([.playbookStarted name] ++ trace ++ [.playbookFinished])
          = substitutedKeys c.bundle trace := by
      rw [substitutedKeys_append, substitutedKeys_append]
      exact List.append_nil _
    -- all that finished inside is made up for; the playbook itself is left over
    show (finishedKeys c.bundle outer _).Sublist _
    rw [hkeys, hsubstituted]
    exact (hs.acquires hn he _).append (List.Sublist.refl _)

end Rules

section Playbooks

variable (c : Setup) (t : Transport)

/-- By induction on the levels that are left, each playbook but itself is made up for. -/
theorem playbookWithin_acquires (levels depth : Nat) :
    (c.playbookWithin levels depth).Acquires c.bundle t := by
  refine playbookWithin_induction c t
    (P := fun _ _ _ _ o => o.Keeps
      (fun trace => ∀ outer, (finishedKeys c.bundle outer trace).Sublist
        (substitutedKeys c.bundle trace ++ (acquiredFor? c.bundle outer).toList))
      (Acquires c.bundle))
    ?_ ?_ levels depth
  · intro name stages m
    exact Acquires.of_forall (by simp [Outcome.tooDeep])
  · intro levels depth ih name stages stack m o h
    exact h.acquires ih (playbookWithin_enclosed c t levels (depth + 1))

/-- No credential is around a playbook of a run, so all that finish for one are followed
by its substitution. -/
theorem finishedKeys_playbookAt {depth : Nat} {name : String} {stages : List Stage}
    {stack : ScopeStack} {m m' : Moment} {v : Option ScopeStack} {trace : List Event}
    (ho : (c.playbookAt depth name stages stack).outcome t m = ⟨v, trace, m'⟩) :
    (finishedKeys c.bundle [] trace).Sublist (substitutedKeys c.bundle trace) := by
  have hn : (c.playbookAt depth).Acquires c.bundle t :=
    playbookWithin_acquires c t (maxDepth - depth) depth
  cases v with
  | none => exact hn.failed ho []
  | some scopes =>
    have h := hn.done ho []
    rw [show (acquiredFor? c.bundle []).toList = [] from rfl, List.append_nil] at h
    exact h

/-- The playbooks of a run acquire nothing, so all that finish for a key are made up for. -/
theorem PlaybooksRun.finishedKeys {c : Setup} {t : Transport} {stack assigned v : ScopeStack}
    {ps : List Playbook} {m m' : Moment} {trace : List Event}
    (h : PlaybooksRun c t stack assigned ps m v trace m') :
    (finishedKeys c.bundle [] trace).Sublist (substitutedKeys c.bundle trace) := by
  induction h with
  | done => exact .slnil
  | passedOver hp hr ih => exact ih
  | halted hp hn => exact finishedKeys_playbookAt _ _ hn
  | next hp hn hr ih =>
    rw [finishedKeys_append, ((playbookAt_enclosed c t 0).of_outcome hn).balanced,
      substitutedKeys_append]
    exact (finishedKeys_playbookAt _ _ hn).append ih

end Playbooks

/-! ## §3. One value for each key. -/

/-- The values of credentials are those that the cache holds, however they were
referred to. -/
def AuthResult.AgreesWith (result : AuthResult) (b : Bundle) (cache : CredentialCache) : Prop :=
  ∀ auth credential, result.get? auth = some credential →
    b.key? auth = some credential.key ∧ cache.get? credential.key = some credential.value

section Values

variable {c : Setup} {t : Transport} {nested : Runner} {levels depth : Nat}

/-- The value of a credential is kept under the key of its reference. -/
theorem CredentialRun.value_kept {auth : String} {stack : ScopeStack} {m m' : Moment}
    {trace : List Event} {credential : ResolvedCredential}
    (h : CredentialRun c t nested stack auth m ⟨some credential, trace, m'⟩) :
    c.bundle.key? auth = some credential.key ∧
      m'.cache.get? credential.key = some credential.value := by
  cases h with
  | kept hm hk => exact ⟨(Setup.method_eq_ok hm).1, hk⟩
  | obtained hm hk ha hf hmissing =>
    refine ⟨(Setup.method_eq_ok hm).1, ?_⟩
    rw [CredentialCache.get?_insert, if_pos rfl]

/-- A credential that is not obtained leaves the entry of its key as it was. -/
theorem CredentialRun.entry_of_failure {auth : String} {stack : ScopeStack} {m m' : Moment}
    {trace : List Event} {key : CredentialKey} (hkey : c.bundle.key? auth = some key)
    (h : CredentialRun c t (c.playbookWithin levels depth) stack auth m ⟨none, trace, m'⟩) :
    m'.cache.get? key = m.cache.get? key := by
  cases h with
  | unknown hm => rfl
  | notAcquired hm hk hs ho =>
    obtain ⟨hauth, hmethod⟩ := Setup.method_eq_ok hm
    rw [hkey] at hauth
    cases hauth
    have habsent := playbookWithin_leaves_absent c t levels depth hmethod hs auth stack m hk
    rw [ho] at habsent
    rw [hk]
    exact habsent
  | incomplete hm hk ha hf hmissing =>
    obtain ⟨hauth, hmethod⟩ := Setup.method_eq_ok hm
    rw [hkey] at hauth
    cases hauth
    rw [hk]
    exact ha.leaves_absent hmethod hk

/-- The result agrees with the cache: later credentials overwrite nothing that it holds. -/
theorem CredentialsRun.agrees {auths : List String} {stack : ScopeStack}
    {result result' : AuthResult} {m m' : Moment} {trace : List Event}
    (h : CredentialsRun c t (c.playbookWithin levels depth) stack auths result m
      ⟨some result', trace, m'⟩) (hr : result.AgreesWith c.bundle m.cache) :
    result'.AgreesWith c.bundle m'.cache := by
  generalize ho : (⟨some result', trace, m'⟩ : Outcome AuthResult) = o at h
  induction h generalizing trace with
  | done =>
    cases ho
    exact hr
  | failed h => cases ho
  | @next auth rest result m m₁ m₂ _ _ credential v h htail ih =>
    cases ho
    -- the new value is kept, and the entries of the others are not touched by then
    refine ih (fun auth' credential' hget => ?_) rfl
    have hrecords := h.records (playbookWithin_records c t levels depth)
    rw [NameMap.get?_insert] at hget
    by_cases hauth : auth' = auth
    · rw [if_pos hauth] at hget
      cases hget
      rw [hauth]
      exact h.value_kept
    · rw [if_neg hauth] at hget
      obtain ⟨hkey, hvalue⟩ := hr auth' credential' hget
      refine ⟨hkey, ?_⟩
      rw [← hrecords.after]
      exact hrecords.lawful.get?_mono hvalue

end Values

/-! ## §4. Whole runs. -/

/-- What a trace shows from one cache on: no credential is obtained more than once. -/
structure ObtainedOnce (b : Bundle) (cache : CredentialCache) (trace : List Event) : Prop where
  /-- A value is put under a key only when that key is absent. -/
  absent : ∀ before e rest key value, trace = before ++ e :: rest →
    e.obtained? b = some (key, value) → (cacheAfter b cache before).get? key = none
  /-- So no entry is overwritten. -/
  kept : ∀ before rest key value, trace = before ++ rest →
    (cacheAfter b cache before).get? key = some value →
      (cacheAfter b cache trace).get? key = some value
  /-- For each key at most one playbook finishes. -/
  acquired : (finishedKeys b [] trace).Nodup
  /-- For each key at most one value is obtained. -/
  obtained : ((obtainedEntries b trace).map (·.1)).Nodup
  /-- A value from the cache was there from the start, or is the one obtained before. -/
  fromCache : ∀ before e rest key value, trace = before ++ e :: rest →
    e.fromCache? b = some (key, value) →
      cache.get? key = some value ∨ (key, value) ∈ obtainedEntries b before
  /-- All references to a key get the same value. -/
  same : ∀ e ∈ trace, ∀ e' ∈ trace, ∀ key value value',
    e.Gives b key value → e'.Gives b key value' → value = value'
  /-- A reference that is aborted puts nothing under its key. -/
  aborted : ∀ auth outer error key,
    (.credential auth :: outer, .authAborted error) ∈ framed [] trace →
      b.key? auth = some key → (cacheAfter b cache trace).get? key = cache.get? key

/-- What records and unwinds obtains each credential at most once. -/
theorem Records.obtainedOnce {b : Bundle} {cache cache' : CredentialCache} {trace : List Event}
    (h : Records b cache trace cache') (hu : Clean trace ∨ Broken trace)
    (hf : (finishedKeys b [] trace).Sublist (substitutedKeys b trace)) :
    ObtainedOnce b cache trace := by
  have hnodup : (substitutedKeys b trace).Nodup :=
    substitutedKeys_nodup h.lawful fun _ _ _ ht he => failures_follow hu ht he
  refine ⟨?_, ?_, hf.nodup hnodup, (obtainedEntries_sublist b trace).nodup hnodup, ?_, ?_, ?_⟩
  · rintro before e rest key value rfl ho
    exact (h.lawful.at.substituted key (Event.substituted?_of_obtained ho)).2
  · rintro before rest key value rfl hk
    rw [cacheAfter_append]
    exact ((lawful_append before rest).mp h.lawful).2.get?_mono hk
  · rintro before e rest key value rfl hv
    refine (cacheAfter_get?_eq_some (h.lawful.at.fromCache key value hv)).imp_right ?_
    rintro ⟨e', he', ho⟩
    exact List.mem_filterMap.mpr ⟨e', he', ho⟩
  · intro e he e' he' key value value' hv hv'
    have hkept := h.lawful.get?_of_mem he hv
    have hkept' := h.lawful.get?_of_mem he' hv'
    rw [hkept] at hkept'
    exact Option.some.inj hkept'
  · -- either there was nothing to obtain, or the key is absent at the end
    intro auth outer error key hp hauth
    rcases (h.settled [] _ hp auth outer key rfl hauth).2 error rfl with hm | hk
    · exact h.lawful.get?_of_no_method hm
    · rw [h.after, hk]
      exact (h.within key hk).symm

section Runs

variable (c : Setup) (t : Transport)

theorem obtainedOnce_playbookAt {depth : Nat} {name : String} {stages : List Stage}
    {stack : ScopeStack} {m : Moment} {o : Outcome ScopeStack}
    (ho : (c.playbookAt depth name stages stack).outcome t m = o) :
    ObtainedOnce c.bundle m.cache o.trace ∧
      o.after.cache = cacheAfter c.bundle m.cache o.trace := by
  obtain ⟨v, trace, m'⟩ := o
  have hrecords := (playbookAt_records c t depth).of_outcome ho
  refine ⟨hrecords.obtainedOnce ?_ (finishedKeys_playbookAt c t ho), hrecords.after.symm⟩
  cases v with
  | none => exact .inr ((playbookAt_unwinds c t depth).failed ho)
  | some scopes => exact .inl ((playbookAt_unwinds c t depth).done ho)

/-- Credentials that are obtained in turn, without a playbook around them. -/
theorem CredentialsRun.obtainedOnce {c : Setup} {t : Transport} {depth : Nat}
    {auths : List String} {stack : ScopeStack} {result : AuthResult} {m : Moment}
    {o : Outcome AuthResult}
    (h : CredentialsRun c t (c.playbookAt depth) stack auths result m o) :
    ObtainedOnce c.bundle m.cache o.trace := by
  have hkeys := h.acquires (playbookWithin_acquires c t _ _) (playbookAt_enclosed c t depth)
  have hkeeps := h.unwinds (playbookAt_unwinds c t depth)
  refine (h.records (playbookAt_records c t depth)).obtainedOnce ?_ (hkeys [])
  obtain ⟨v, trace, m'⟩ := o
  cases v with
  | none => exact .inr hkeeps
  | some result => exact .inl hkeeps

theorem obtainedOnce_preview {cache : CredentialCache} {auths : List String}
    {stack : ScopeStack} {depth : Nat} {sent : List HttpRequest}
    {ran : Ran (Option AuthResult × CredentialCache)}
    (hran : (c.preview cache auths stack depth).run t sent = ran) :
    ObtainedOnce c.bundle cache ran.trace ∧
      ran.value.2 = cacheAfter c.bundle cache ran.trace ∧
      ∀ result, ran.value.1 = some result → result.AgreesWith c.bundle ran.value.2 := by
  have h := credentialsRun_resolveAll c t (c.playbookAt (depth + 1)) stack auths .empty
    ⟨cache, sent⟩
  rcases ho : (c.resolveAll (c.playbookAt (depth + 1)) stack auths .empty).outcome t ⟨cache, sent⟩
    with ⟨v, trace, m'⟩
  rw [ho] at h
  obtain ⟨warnings, hrun⟩ := Step.run_of_outcome ho
  have hran' : ran = ⟨(v, m'.cache), trace, warnings, m'.sent⟩ := hran.symm.trans hrun
  rw [hran']
  refine ⟨h.obtainedOnce, (h.records (playbookAt_records c t (depth + 1))).after.symm, ?_⟩
  rintro result rfl
  -- no credential is there before the first one is obtained
  refine h.agrees ?_
  intro auth credential hget
  cases hget

/-- Between looking for a key and keeping its value the key stays absent. -/
theorem acquisitionScopes_leaves_absent {depth : Nat} {auth : String} {stack : ScopeStack}
    {m : Moment} {key : CredentialKey} {method : CredentialMethod} {o : Outcome ScopeStack}
    (hm : c.bundle.method? key = some method) (hk : m.cache.get? key = none)
    (ho : (Setup.acquisitionScopes (c.playbookAt depth) auth method stack).outcome t m = o) :
    o.after.cache.get? key = none := by
  rcases acquisitionScopes_cases t (c.playbookAt depth) stack auth method m with
    ⟨scopes, trace, m', ha, h⟩ | ⟨stages, trace, m', hs, hn, h⟩
  · rw [← ho, h]
    exact ha.leaves_absent hm hk
  · have habsent := playbookWithin_leaves_absent c t (maxDepth - depth) depth hm hs auth stack m hk
    rw [← ho, h]
    rw [show c.playbookWithin (maxDepth - depth) depth = c.playbookAt depth from rfl, hn] at habsent
    exact habsent

/-- A credential that was not had leaves its own entry as it was. -/
theorem resolve_entry_of_failure {depth : Nat} {auth : String} {stack : ScopeStack} {m : Moment}
    {key : CredentialKey} {o : Outcome ResolvedCredential} (hkey : c.bundle.key? auth = some key)
    (ho : (c.resolve (c.playbookAt depth) stack auth).outcome t m = o) (hv : o.value = none) :
    o.after.cache.get? key = m.cache.get? key := by
  have h := credentialRun_resolve c t (c.playbookAt depth) stack auth m
  rw [ho] at h
  obtain ⟨v, trace, m'⟩ := o
  cases hv
  exact h.entry_of_failure hkey

end Runs

/-- **EACH CREDENTIAL IS OBTAINED AT MOST ONCE**, in every run of playbooks, in every
playbook at any depth, and whenever credentials are obtained alone: with any
transport, and from any cache.  In the middle of it all, the key that is acquired
is still absent when its value is put into the cache. -/
theorem obtainedOnce_of_runs (c : Setup) (t : Transport) :
    (∀ values extra ps, ObtainedOnce c.bundle .empty ((c.runAll values extra ps).run t []).trace) ∧
    (∀ depth name stages stack m o, (c.playbookAt depth name stages stack).outcome t m = o →
      ObtainedOnce c.bundle m.cache o.trace ∧
        o.after.cache = cacheAfter c.bundle m.cache o.trace) ∧
    (∀ cache auths stack depth sent ran,
      (c.preview cache auths stack depth).run t sent = ran →
        ObtainedOnce c.bundle cache ran.trace ∧
          ran.value.2 = cacheAfter c.bundle cache ran.trace ∧
          ∀ result, ran.value.1 = some result → result.AgreesWith c.bundle ran.value.2) ∧
    (∀ depth auth stack m key credential method o,
      c.method auth = .ok (key, credential, method) → m.cache.get? key = none →
      (Setup.acquisitionScopes (c.playbookAt depth) auth method stack).outcome t m = o →
        o.after.cache.get? key = none) ∧
    (∀ depth auth stack m key o, c.bundle.key? auth = some key →
      (c.resolve (c.playbookAt depth) stack auth).outcome t m = o → o.value = none →
        o.after.cache.get? key = m.cache.get? key) ∧
    (∀ name credential, '/' ∉ name.toList → c.bundle.credential? name = some credential →
      c.bundle.key? (name ++ "/" ++ credential.defaultMethod) = c.bundle.key? name) := by
  refine ⟨?_, ?_, ?_, ?_, ?_, ?_⟩
  · intro values extra ps
    obtain ⟨m, h, -⟩ := playbooksRun_runAll c t values extra ps
    exact h.records.obtainedOnce h.clean_or_broken h.finishedKeys
  · intro depth name stages stack m o ho
    exact obtainedOnce_playbookAt c t ho
  · intro cache auths stack depth sent ran hran
    exact obtainedOnce_preview c t hran
  · intro depth auth stack m key credential method o hm hk ho
    exact acquisitionScopes_leaves_absent c t (Setup.method_eq_ok hm).2 hk ho
  · intro depth auth stack m key o hkey ho hv
    exact resolve_entry_of_failure c t hkey ho hv
  · intro name credential hname hc
    exact Bundle.key?_defaultMethod hname hc

end ApiPlaybook
