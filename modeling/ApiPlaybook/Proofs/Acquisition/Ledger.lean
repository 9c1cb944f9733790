/-
  ApiPlaybook.Proofs.Acquisition.Ledger
  ─────────────────────────────────────
  **WHAT THE EVENTS SAY ABOUT THE CACHE.**

  Each value that is put into the cache is reported first, and so is each one
  that is taken from it.  So the cache can be followed from the events alone
  (`cacheAfter`), and the events of a run agree with it (`Records`):

      a template is filled in only for a key that is absent at that moment;
      what is said to come from the cache is in it;
      a credential that is done is kept, one that is aborted is not.

  Nothing is ever overwritten, so what the cache holds once it holds to the end
  (`Lawful.get?_mono`).
-/
import ApiPlaybook.Proofs.Acquisition.Needs
import ApiPlaybook.Proofs.Run.Frames
import ApiPlaybook.Proofs.Run.Unwinding

namespace ApiPlaybook

/-! ## §1. The cache behind a trace. -/

namespace Event

variable (b : Bundle)

/-- The key for which a template was filled in, whether or not values were missing. -/
def substituted? : Event → Option CredentialKey
  | .credentialSubstituted auth _ _ _ _ => b.key? auth
  | _ => none

/-- The entry that is put into the cache: a template that was filled in completely. -/
def obtained? : Event → Option (CredentialKey × String)
  | .credentialSubstituted auth value _ _ missing =>
    if missing = [] then (b.key? auth).map fun key => (key, value) else none
  | _ => none

/-- The entry that is taken from the cache. -/
def fromCache? : Event → Option (CredentialKey × String)
  | .credentialFromCache auth value => (b.key? auth).map fun key => (key, value)
  | _ => none

/-- The event gives a value for a key: obtained anew, or taken from the cache. -/
def Gives (key : CredentialKey) (value : String) (e : Event) : Prop :=
  e.obtained? b = some (key, value) ∨ e.fromCache? b = some (key, value)

/-- The cache behind an event. -/
def cacheAfter (cache : CredentialCache) (e : Event) : CredentialCache :=
  match e.obtained? b with
  | some (key, value) => cache.insert key value
  | none => cache

/-- The event fits the cache before it. -/
structure Lawful (cache : CredentialCache) (e : Event) : Prop where
  /-- A template is that of a method, and its key is absent. -/
  substituted : ∀ key, e.substituted? b = some key →
    (∃ method, b.method? key = some method) ∧ cache.get? key = none
  fromCache : ∀ key value, e.fromCache? b = some (key, value) → cache.get? key = some value

end Event

/-- The cache behind a trace. -/
def cacheAfter (b : Bundle) (cache : CredentialCache) (trace : List Event) : CredentialCache :=
  trace.foldl (Event.cacheAfter b) cache

/-- All events of a trace fit the cache before them. -/
def Lawful (b : Bundle) : CredentialCache → List Event → Prop
  | _, [] => True
  | cache, e :: rest => e.Lawful b cache ∧ Lawful b (e.cacheAfter b cache) rest

section Cache

variable {b : Bundle} {cache : CredentialCache} {e : Event} {trace : List Event}
  {key : CredentialKey} {value : String}

@[simp] theorem cacheAfter_nil : cacheAfter b cache [] = cache := rfl

@[simp] theorem cacheAfter_cons :
    cacheAfter b cache (e :: trace) = cacheAfter b (e.cacheAfter b cache) trace := rfl

/-- The cache is followed through one part and then the other. -/
theorem cacheAfter_append (b : Bundle) (cache : CredentialCache) (x y : List Event) :
    cacheAfter b cache (x ++ y) = cacheAfter b (cacheAfter b cache x) y :=
  List.foldl_append

/-- An event that tells of a value puts it into the cache. -/
theorem Event.cacheAfter_of_obtained (h : e.obtained? b = some (key, value)) :
    e.cacheAfter b cache = cache.insert key value := by
  unfold Event.cacheAfter
  rw [h]

/-- Any other event leaves the cache as it is. -/
theorem Event.cacheAfter_of_none (h : e.obtained? b = none) : e.cacheAfter b cache = cache := by
  unfold Event.cacheAfter
  rw [h]

/-- What is obtained was substituted for the same key. -/
theorem Event.substituted?_of_obtained (h : e.obtained? b = some (key, value)) :
    e.substituted? b = some key := by
  cases e with
  | credentialSubstituted auth v stack found missing =>
    by_cases hm : missing = []
    · simp only [Event.obtained?, if_pos hm] at h
      obtain ⟨k, hk, heq⟩ := Option.map_eq_some_iff.mp h
      cases heq
      exact hk
    · simp only [Event.obtained?, if_neg hm] at h
      cases h
  | _ => cases h

/-- A trace is lawful when its parts are, the second with the cache that the first leaves. -/
theorem lawful_append (x y : List Event) :
    Lawful b cache (x ++ y) ↔ Lawful b cache x ∧ Lawful b (cacheAfter b cache x) y := by
  induction x generalizing cache with
  | nil => simp [Lawful]
  | cons e rest ih => simp only [List.cons_append, Lawful, cacheAfter_cons, ih, and_assoc]

/-- An entry of the cache is not touched by an event that fits it. -/
theorem Event.Lawful.get?_mono (h : e.Lawful b cache) (hk : cache.get? key = some value) :
    (e.cacheAfter b cache).get? key = some value := by
  cases ho : e.obtained? b with
  | none =>
    rw [Event.cacheAfter_of_none ho]
    exact hk
  | some entry =>
    obtain ⟨other, v⟩ := entry
    -- the entry is for a key that was absent, hence for another one
    have habsent := (h.substituted other (Event.substituted?_of_obtained ho)).2
    have hne : key ≠ other := by
      rintro rfl
      rw [habsent] at hk
      cases hk
    rw [Event.cacheAfter_of_obtained ho, CredentialCache.get?_insert, if_neg hne]
    exact hk

/-- **NOTHING IS OVERWRITTEN**: what the cache holds once it holds to the end. -/
theorem Lawful.get?_mono (h : Lawful b cache trace) (hk : cache.get? key = some value) :
    (cacheAfter b cache trace).get? key = some value := by
  induction trace generalizing cache with
  | nil => exact hk
  | cons e rest ih => exact ih h.2 (h.1.get?_mono hk)

/-- A lawful trace loses none of the keys that were kept. -/
theorem Lawful.within (h : Lawful b cache trace) : cache.Within (cacheAfter b cache trace) := by
  intro key hk
  cases hv : cache.get? key with
  | none => rfl
  | some value =>
    rw [h.get?_mono hv] at hk
    cases hk

/-- The event at a place of the trace fits the cache at that place. -/
theorem Lawful.at {before rest : List Event} (h : Lawful b cache (before ++ e :: rest)) :
    e.Lawful b (cacheAfter b cache before) :=
  ((lawful_append before (e :: rest)).mp h).2.1

/-- An entry that was there when the trace began, or that one of its events put in. -/
theorem cacheAfter_get?_eq_some (h : (cacheAfter b cache trace).get? key = some value) :
    cache.get? key = some value ∨ ∃ e ∈ trace, e.obtained? b = some (key, value) := by
  induction trace generalizing cache with
  | nil => exact .inl h
  | cons e rest ih =>
    rcases ih h with h | ⟨e', he', ho⟩
    · cases ho : e.obtained? b with
      | none =>
        rw [Event.cacheAfter_of_none ho] at h
        exact .inl h
      | some entry =>
        obtain ⟨other, v⟩ := entry
        rw [Event.cacheAfter_of_obtained ho, CredentialCache.get?_insert] at h
        -- the entry that is put in is the one asked for, or it changes nothing here
        by_cases hne : key = other
        · rw [if_pos hne] at h
          cases h
          exact .inr ⟨e, List.mem_cons_self, by rw [ho, hne]⟩
        · rw [if_neg hne] at h
          exact .inl h
    · exact .inr ⟨e', List.mem_cons_of_mem e he', ho⟩

/-- The entry of a key without a method never changes. -/
theorem Lawful.get?_of_no_method (h : Lawful b cache trace) (hm : b.method? key = none) :
    (cacheAfter b cache trace).get? key = cache.get? key := by
  cases hk : (cacheAfter b cache trace).get? key with
  | none => exact (h.within key hk).symm
  | some value =>
    rcases cacheAfter_get?_eq_some hk with hk | ⟨e, he, ho⟩
    · exact hk.symm
    · obtain ⟨before, rest, rfl⟩ := List.append_of_mem he
      obtain ⟨⟨method, hmethod⟩, -⟩ := h.at.substituted key (Event.substituted?_of_obtained ho)
      rw [hm] at hmethod
      cases hmethod

/-- Whatever value an event gives for a key, the cache holds it to the end. -/
theorem Lawful.get?_of_mem (h : Lawful b cache trace) (he : e ∈ trace)
    (hv : e.Gives b key value) : (cacheAfter b cache trace).get? key = some value := by
  obtain ⟨before, rest, rfl⟩ := List.append_of_mem he
  obtain ⟨-, hfits, hrest⟩ := (lawful_append before (e :: rest)).mp h
  rw [cacheAfter_append, cacheAfter_cons]
  apply hrest.get?_mono
  rcases hv with ho | hf
  · rw [Event.cacheAfter_of_obtained ho, CredentialCache.get?_insert, if_pos rfl]
  · exact hfits.get?_mono (hfits.fromCache key value hf)

end Cache

/-! ## §2. Credentials that are done or aborted. -/

/-- A credential that is finished is kept; one that is aborted has no method, or is
not kept. -/
def Settled (b : Bundle) (cache : CredentialCache) (frames : List Frame) (e : Event) : Prop :=
  ∀ auth outer key, frames = .credential auth :: outer → b.key? auth = some key →
    (e = .authFinished → cache.get? key ≠ none) ∧
      ∀ error, e = .authAborted error → b.method? key = none ∨ cache.get? key = none

/-- Whether an event closes a credential. -/
def Event.endsCredential : Event → Bool
  | .authFinished | .authAborted _ => true
  | _ => false

/-- Whether an event says nothing about the cache. -/
def Event.isSilent : Event → Bool
  | .credentialFromCache .. | .credentialSubstituted .. => false
  | _ => true

/-- A silent event says nothing that could disagree with the cache. -/
theorem Event.lawful_of_isSilent {b : Bundle} {cache : CredentialCache} {e : Event}
    (h : e.isSilent = true) : e.Lawful b cache := by
  cases e with
  | credentialFromCache => cases h
  | credentialSubstituted => cases h
  | _ => exact ⟨fun _ hs => (nomatch hs), fun _ _ hf => (nomatch hf)⟩

theorem Event.cacheAfter_of_isSilent {b : Bundle} {cache : CredentialCache} {e : Event}
    (h : e.isSilent = true) : e.cacheAfter b cache = cache := by
  cases e <;> first | rfl | cases h

/-- The end of a credential is silent: what it stands for was reported before. -/
theorem Event.isSilent_of_endsCredential {e : Event} (h : e.endsCredential = true) :
    e.isSilent = true := by
  cases e <;> first | rfl | cases h

/-- Only the end of a credential has to be settled. -/
theorem Settled.of_open {b : Bundle} {cache : CredentialCache} {frames : List Frame} {e : Event}
    (h : e.endsCredential = false) : Settled b cache frames e := by
  intro auth outer key _ _
  constructor
  · rintro rfl
    cases h
  · rintro error rfl
    cases h

/-- A credential that is done is settled by its kept value. -/
theorem Settled.finished {b : Bundle} {cache : CredentialCache} {auth : String}
    {key : CredentialKey} (hauth : b.key? auth = some key) (h : cache.get? key ≠ none)
    (outer : List Frame) : Settled b cache (.credential auth :: outer) .authFinished := by
  intro auth' outer' key' hf hk
  cases hf
  rw [hauth] at hk
  cases hk
  refine ⟨fun _ => h, ?_⟩
  intro error he
  cases he

/-- One that is aborted is settled when its key has no method or no value. -/
theorem Settled.aborted {b : Bundle} {cache : CredentialCache} {auth : String}
    (h : ∀ key, b.key? auth = some key → b.method? key = none ∨ cache.get? key = none)
    (outer : List Frame) (error : RunError) :
    Settled b cache (.credential auth :: outer) (.authAborted error) := by
  intro auth' outer' key hf hk
  cases hf
  refine ⟨?_, fun _ _ => h key hk⟩
  intro he
  cases he

/-- A credential that was looked for and is still absent. -/
theorem Settled.absent {b : Bundle} {cache : CredentialCache} {auth : String}
    {key : CredentialKey} (hauth : b.key? auth = some key) (h : cache.get? key = none)
    (outer : List Frame) (error : RunError) :
    Settled b cache (.credential auth :: outer) (.authAborted error) := by
  refine .aborted ?_ outer error
  intro key' hk
  rw [hauth] at hk
  cases hk
  exact .inr h

/-- What is settled stays so while more is kept, if nothing was aborted. -/
theorem Settled.mono {b : Bundle} {cache cache' : CredentialCache} {frames : List Frame}
    {e : Event} (h : Settled b cache frames e) (hc : cache.Within cache')
    (he : e.isClosing = false) : Settled b cache' frames e := by
  intro auth outer key hf hk
  constructor
  · intro hfin hnone
    exact (h auth outer key hf hk).1 hfin (hc key hnone)
  · rintro error rfl
    cases he

/-- From one cache to a later one by a trace. -/
structure Records (b : Bundle) (cache : CredentialCache) (trace : List Event)
    (cache' : CredentialCache) : Prop where
  after : cacheAfter b cache trace = cache'
  lawful : Lawful b cache trace
  settled : ∀ outer, ∀ p ∈ framed outer trace, Settled b cache' p.1 p.2

namespace Records

variable {b : Bundle} {cache mid cache' : CredentialCache} {x y ending : List Event}

/-- The keys that were kept at the start are kept at the end. -/
theorem within (h : Records b cache x cache') : cache.Within cache' := by
  rw [← h.after]
  exact h.lawful.within

/-- An event that fits the cache, and closes no credential. -/
theorem single {e : Event} (hl : e.Lawful b cache) (he : e.endsCredential = false) :
    Records b cache [e] (e.cacheAfter b cache) := by
  refine ⟨rfl, ⟨hl, trivial⟩, ?_⟩
  intro outer p hp
  cases List.mem_singleton.mp hp
  exact .of_open he

/-- A template is filled in for a key that is absent, and its report is recorded. -/
theorem substituted {auth : String} {key : CredentialKey} {method : CredentialMethod}
    (hauth : b.key? auth = some key) (hm : b.method? key = some method)
    (hk : cache.get? key = none) (value : String) (stack : ScopeStack)
    (found : List FoundVariable) (missing : List MissingVariable) :
    Records b cache [.credentialSubstituted auth value stack found missing]
      (Event.cacheAfter b cache (.credentialSubstituted auth value stack found missing)) := by
  refine .single ⟨?_, fun _ _ hf => nomatch hf⟩ rfl
  intro key' hs
  have hs : b.key? auth = some key' := hs
  rw [hauth] at hs
  cases hs
  exact ⟨⟨method, hm⟩, hk⟩

theorem nil : Records b cache [] cache := ⟨rfl, trivial, fun _ _ hp => nomatch hp⟩

/-- One part behind another, if the first one is settled by the end of both. -/
theorem join (hx : Records b cache x mid) (hy : Records b mid y cache')
    (hs : ∀ outer, ∀ p ∈ framed outer x, Settled b cache' p.1 p.2) :
    Records b cache (x ++ y) cache' := by
  refine ⟨?_, ?_, ?_⟩
  · rw [cacheAfter_append, hx.after, hy.after]
  · rw [lawful_append, hx.after]
    exact ⟨hx.lawful, hy.lawful⟩
  · intro outer p hp
    rw [framed_append] at hp
    rcases List.mem_append.mp hp with hp | hp
    · exact hs outer p hp
    · exact hy.settled (framesAfter outer x) p hp

/-- A part that succeeded, and what comes behind it. -/
theorem append (hx : Records b cache x mid) (hclean : Clean x) (hy : Records b mid y cache') :
    Records b cache (x ++ y) cache' := by
  refine hx.join hy ?_
  intro outer p hp
  exact (hx.settled outer p hp).mono hy.within (hclean p.2 (event_mem_of_framed hp))

/-- Events that say nothing about the cache, and close no credential. -/
theorem quiet (h : ∀ e ∈ x, e.isSilent = true ∧ e.endsCredential = false) :
    Records b cache x cache := by
  refine ⟨?_, ?_, fun outer p hp => .of_open (h p.2 (event_mem_of_framed hp)).2⟩
  · induction x with
    | nil => rfl
    | cons e rest ih =>
      rw [cacheAfter_cons, Event.cacheAfter_of_isSilent (h e List.mem_cons_self).1]
      exact ih fun d hd => h d (List.mem_cons_of_mem e hd)
  · induction x with
    | nil => trivial
    | cons e rest ih =>
      have he := (h e List.mem_cons_self).1
      refine ⟨Event.lawful_of_isSilent he, ?_⟩
      rw [Event.cacheAfter_of_isSilent he]
      exact ih fun d hd => h d (List.mem_cons_of_mem e hd)

/-- Such events before a part. -/
theorem quiet_append (hx : ∀ e ∈ x, e.isSilent = true ∧ e.endsCredential = false)
    (hy : Records b cache y cache') : Records b cache (x ++ y) cache' := by
  refine (Records.quiet hx).join hy ?_
  intro outer p hp
  exact .of_open (hx p.2 (event_mem_of_framed hp)).2

/-- Such events behind a part, whether that succeeded or failed. -/
theorem append_quiet (hx : Records b cache x cache')
    (hy : ∀ e ∈ y, e.isSilent = true ∧ e.endsCredential = false) :
    Records b cache (x ++ y) cache' :=
  hx.join (.quiet hy) hx.settled

/-- The frame of a credential around a trace. -/
theorem credential {auth : String} {last : Event} (hx : Records b cache x cache')
    (hb : Balanced x) (hlast : last.endsCredential = true)
    (hs : ∀ outer, Settled b cache' (.credential auth :: outer) last) :
    Records b cache ([.authStarted auth] ++ x ++ [last]) cache' := by
  have hsilent := Event.isSilent_of_endsCredential hlast
  refine ⟨?_, ?_, ?_⟩
  · rw [cacheAfter_append, cacheAfter_append]
    show last.cacheAfter b (cacheAfter b cache x) = cache'
    rw [hx.after, Event.cacheAfter_of_isSilent hsilent]
  · refine (lawful_append _ _).mpr ⟨(lawful_append _ _).mpr ⟨?_, hx.lawful⟩, ?_⟩
    · exact ⟨Event.lawful_of_isSilent rfl, trivial⟩
    · exact ⟨Event.lawful_of_isSilent hsilent, trivial⟩
  · intro outer p hp
    rw [List.append_assoc] at hp
    rcases List.mem_cons.mp hp with rfl | hp
    · exact .of_open rfl
    · -- the part closes what it opens, so the last event is in the frame of the credential
      have hp : p ∈ framed (.credential auth :: outer) (x ++ [last]) := hp
      rw [framed_append, hb] at hp
      rcases List.mem_append.mp hp with hp | hp
      · exact hx.settled _ p hp
      · cases List.mem_singleton.mp hp
        exact hs outer

end Records

/-! ## §3. Runs agree with the cache. -/

section Rules

variable {c : Setup} {t : Transport} {levels depth : Nat}

/-- The playbooks that a runner runs agree with the cache. -/
def Runner.Records (nested : Runner) (b : Bundle) (t : Transport) : Prop :=
  nested.Ensures t fun _ _ m o => ApiPlaybook.Records b m.cache o.trace o.after.cache

/-- The events of the scopes of a credential agree with the cache. -/
theorem AcquisitionRun.records {nested : Runner} {b : Bundle} (hn : nested.Records b t)
    {auth : String} {method : CredentialMethod} {stack scopes : ScopeStack} {m m' : Moment}
    {trace : List Event} (h : AcquisitionRun t nested auth method stack m scopes trace m') :
    Records b m.cache trace m'.cache := by
  cases h with
  | direct hs => exact .quiet (by simp)
  | staged hs ho => exact hn.of_outcome ho

/-- The key that is acquired is still absent when its template is filled in. -/
theorem AcquisitionRun.leaves_absent {auth : String} {key : CredentialKey}
    {method : CredentialMethod} {stack scopes : ScopeStack} {m m' : Moment} {trace : List Event}
    (hm : c.bundle.method? key = some method) (hk : m.cache.get? key = none)
    (h : AcquisitionRun t (c.playbookWithin levels depth) auth method stack m scopes trace m') :
    m'.cache.get? key = none := by
  cases h with
  | direct hs => exact hk
  | @staged stages assigned trace m' hs ho =>
    have h := playbookWithin_leaves_absent c t levels depth hm hs auth stack m hk
    rw [ho] at h
    exact h

/-- Filling in a template agrees with the cache behind the acquisition of its scopes. -/
theorem AcquisitionRun.records_substituted (hn : (c.playbookWithin levels depth).Records c.bundle t)
    {auth : String} {key : CredentialKey} {method : CredentialMethod} {stack scopes : ScopeStack}
    {m m' : Moment} {trace : List Event} (hauth : c.bundle.key? auth = some key)
    (hm : c.bundle.method? key = some method) (hk : m.cache.get? key = none)
    (h : AcquisitionRun t (c.playbookWithin levels depth) auth method stack m scopes trace m')
    (value : String) (found : List FoundVariable) (missing : List MissingVariable) :
    Records c.bundle m.cache
      (trace ++ [.credentialSubstituted auth value scopes found missing])
      (Event.cacheAfter c.bundle m'.cache
        (.credentialSubstituted auth value scopes found missing)) ∧
    Balanced (trace ++ [.credentialSubstituted auth value scopes found missing]) := by
  have habsent := h.leaves_absent hm hk
  have hclean := h.clean (playbookWithin_unwinds c t levels depth)
  have hbalanced := (h.enclosed (playbookWithin_enclosed c t levels depth)).balanced
  exact ⟨(h.records hn).append hclean (.substituted hauth hm habsent value scopes found missing),
    hbalanced.append fun _ => rfl⟩

/-- **ONE CREDENTIAL** agrees with the cache, in each of the ways it may go. -/
theorem CredentialRun.records (hn : (c.playbookWithin levels depth).Records c.bundle t)
    {auth : String} {stack : ScopeStack} {m : Moment} {o : Outcome ResolvedCredential}
    (h : CredentialRun c t (c.playbookWithin levels depth) stack auth m o) :
    Records c.bundle m.cache o.trace o.after.cache := by
  have he := playbookWithin_enclosed c t levels depth
  cases h with
  | unknown hm =>
    refine Records.credential .nil .nil rfl fun outer => .aborted ?_ outer _
    intro key hk
    exact .inl (Setup.method_eq_error hm hk)
  | @kept key credential method value hm hk =>
    obtain ⟨hauth, -⟩ := Setup.method_eq_ok hm
    have hfits : (Event.credentialFromCache auth value).Lawful c.bundle m.cache := by
      refine ⟨fun _ hs => (nomatch hs), ?_⟩
      intro key' value' hf
      simp only [Event.fromCache?, hauth, Option.map_some] at hf
      cases hf
      exact hk
    refine Records.credential (.single hfits rfl) (fun _ => rfl) rfl (.finished hauth ?_)
    show m.cache.get? key ≠ none
    rw [hk]
    exact Option.some_ne_none value
  | @notAcquired key credential method stages trace m' hm hk hs ho =>
    obtain ⟨hauth, hmethod⟩ := Setup.method_eq_ok hm
    have habsent := playbookWithin_leaves_absent c t levels depth hmethod hs auth stack m hk
    rw [ho] at habsent
    exact Records.credential (hn.of_outcome ho) (he.of_outcome ho).balanced rfl
      fun outer => .absent hauth habsent outer _
  | @incomplete key credential method scopes trace m' filled hm hk ha hf hmissing =>
    obtain ⟨hauth, hmethod⟩ := Setup.method_eq_ok hm
    have habsent := ha.leaves_absent hmethod hk
    obtain ⟨hx, hbalanced⟩ := ha.records_substituted hn hauth hmethod hk filled.value filled.found
      filled.missing
    -- with values missing the report puts nothing into the cache
    rw [Event.cacheAfter_of_none (by simp [Event.obtained?, hmissing])] at hx
    simpa using hx.credential hbalanced rfl
      fun outer => .absent hauth habsent outer
        (.credentialVariablesMissing auth (missingNamesText filled.missing))
  | @obtained key credential method scopes trace m' filled hm hk ha hf hmissing =>
    obtain ⟨hauth, hmethod⟩ := Setup.method_eq_ok hm
    obtain ⟨hx, hbalanced⟩ := ha.records_substituted hn hauth hmethod hk filled.value
      filled.found []
    have hentry : Event.obtained? c.bundle
        (.credentialSubstituted auth filled.value scopes filled.found [])
          = some (key, filled.value) := by
      simp [Event.obtained?, hauth]
    rw [Event.cacheAfter_of_obtained hentry] at hx
    have hkept : (m'.cache.insert key filled.value).get? key ≠ none := by
      rw [CredentialCache.get?_insert, if_pos rfl]
      exact Option.some_ne_none filled.value
    simpa using hx.credential hbalanced rfl (.finished hauth hkept)

theorem CredentialsRun.records (hn : (c.playbookWithin levels depth).Records c.bundle t)
    {auths : List String} {stack : ScopeStack} {result : AuthResult} {m : Moment}
    {o : Outcome AuthResult}
    (h : CredentialsRun c t (c.playbookWithin levels depth) stack auths result m o) :
    Records c.bundle m.cache o.trace o.after.cache := by
  have hu := playbookWithin_unwinds c t levels depth
  induction h with
  | done => exact .nil
  | failed h => exact h.records hn
  | next h hr ih => exact (h.records hn).append (h.unwinds hu) ih

/-- A request neither reads the cache nor changes it. -/
theorem RequestRun.records {playbook : String} {index : Nat} {s : Stage} {outer : ScopeStack}
    {request : Request} {credentials : AuthResult} {m : Moment} {o : Outcome ScopeStack}
    (h : RequestRun c t playbook index s outer request credentials m o) :
    Records c.bundle m.cache o.trace o.after.cache := by
  cases h <;> exact .quiet (by simp [Payload.report, Event.isSilent, Event.endsCredential])

/-- A stage agrees with the cache by its credentials. -/
theorem StageRun.records (hn : (c.playbookWithin levels depth).Records c.bundle t)
    {playbook : String} {index : Nat} {s : Stage} {outer : ScopeStack} {m : Moment}
    {o : Outcome ScopeStack}
    (h : StageRun c t (c.playbookWithin levels depth) playbook index s outer m o) :
    Records c.bundle m.cache o.trace o.after.cache := by
  have hu := playbookWithin_unwinds c t levels depth
  cases h with
  | noRequest hr => exact .quiet (by simp [Event.isSilent, Event.endsCredential])
  | noCredentials hr hc =>
    rw [List.append_assoc]
    refine .quiet_append (by simp [Event.isSilent, Event.endsCredential]) ?_
    exact (hc.records hn).append_quiet (by simp [Event.isSilent, Event.endsCredential])
  | ran hr hc ho =>
    rw [List.append_assoc]
    refine .quiet_append (by simp [Event.isSilent, Event.endsCredential]) ?_
    exact (hc.records hn).append (hc.unwinds hu) ho.records

theorem StagesRun.records (hn : (c.playbookWithin levels depth).Records c.bundle t)
    {playbook : String} {stack assigned : ScopeStack} {index : Nat} {stages : List Stage}
    {m : Moment} {o : Outcome ScopeStack}
    (h : StagesRun c t (c.playbookWithin levels depth) playbook stack index assigned stages m o) :
    Records c.bundle m.cache o.trace o.after.cache := by
  have hu := playbookWithin_unwinds c t levels depth
  induction h with
  | done => exact .nil
  | failed h => exact h.records hn
  | next h hr ih => exact (h.records hn).append (h.unwinds hu) ih

/-- The start and the end of a playbook are silent. -/
theorem PlaybookRun.records (hn : (c.playbookWithin levels depth).Records c.bundle t)
    {name : String} {stages : List Stage} {stack : ScopeStack} {m : Moment}
    {o : Outcome ScopeStack}
    (h : PlaybookRun c t (c.playbookWithin levels depth) name stages stack m o) :
    Records c.bundle m.cache o.trace o.after.cache := by
  have quiet (e : Event) (h : e.isSilent = true ∧ e.endsCredential = false) :
      ∀ e' ∈ [e], e'.isSilent = true ∧ e'.endsCredential = false := by
    intro e' he
    cases List.mem_singleton.mp he
    exact h
  cases h with
  | failed hs => exact .quiet_append (quiet _ ⟨rfl, rfl⟩) (hs.records hn)
  | finished hs =>
    rw [List.append_assoc]
    exact .quiet_append (quiet _ ⟨rfl, rfl⟩) ((hs.records hn).append_quiet (quiet _ ⟨rfl, rfl⟩))

end Rules

section Playbooks

variable (c : Setup) (t : Transport)

/-- By induction on the levels that are left, playbooks agree with the cache. -/
theorem playbookWithin_records (levels depth : Nat) :
    (c.playbookWithin levels depth).Records c.bundle t := by
  refine playbookWithin_induction c t
    (P := fun _ _ _ m o => Records c.bundle m.cache o.trace o.after.cache) ?_ ?_ levels depth
  · intro name stages m
    exact .quiet (by simp [Outcome.tooDeep, Event.isSilent, Event.endsCredential])
  · intro levels depth ih name stages stack m o h
    exact h.records ih

theorem playbookAt_records (depth : Nat) : (c.playbookAt depth).Records c.bundle t :=
  playbookWithin_records c t (maxDepth - depth) depth

theorem PlaybooksRun.records {c : Setup} {t : Transport} {stack assigned v : ScopeStack}
    {ps : List Playbook} {m m' : Moment} {trace : List Event}
    (h : PlaybooksRun c t stack assigned ps m v trace m') :
    Records c.bundle m.cache trace m'.cache := by
  induction h with
  | done => exact .nil
  | passedOver hp hr ih => exact ih
  | halted hp hn => exact (playbookAt_records c t 0).of_outcome hn
  | next hp hn hr ih =>
    have hclean : Clean _ := (playbookAt_unwinds c t 0).done hn
    exact ((playbookAt_records c t 0).of_outcome hn).append hclean ih

end Playbooks

end ApiPlaybook
