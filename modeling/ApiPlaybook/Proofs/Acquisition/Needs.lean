/-
  ApiPlaybook.Proofs.Acquisition.Needs
  ────────────────────────────────────
  **WHICH CREDENTIALS NEED WHICH.**

  A method with stages needs the credentials that the requests of these stages
  refer to.  This makes a graph of keys, with cycles where a credential can only
  be acquired with itself.  Two facts relate it to what a run keeps:

      keys that each need one of themselves are never obtained (`Avoids`);
      what a run obtains anew it reaches over keys that were absent when it
      started (`Gathers`).

  Together they show that the acquisition of a credential never obtains that
  credential itself (`playbookWithin_leaves_absent`).
-/
import Mathlib.Logic.Relation
import ApiPlaybook.Proofs.Run.Rules

namespace ApiPlaybook

/-! ## §1. Keys. -/

namespace AuthRef

/-- A reference without a slash names no method. -/
theorem ofText_name {name : String} (h : '/' ∉ name.toList) : ofText name = ⟨name, none⟩ := by
  unfold ofText splitOnce
  rw [splitFirst_eq_none h]
  rfl

/-- The first slash ends the name; what stands behind it is the method. -/
theorem ofText_name_method {name : String} (h : '/' ∉ name.toList) (method : String) :
    ofText (name ++ "/" ++ method) = ⟨name, some method⟩ := by
  have htext : (name ++ "/" ++ method).toList = name.toList ++ '/' :: method.toList := by
    simp
  unfold ofText splitOnce
  rw [htext, splitFirst_append _ h]
  simp

end AuthRef

namespace Bundle

/-- The key that a reference means, whether there is such a method or not. -/
def key? (b : Bundle) (auth : String) : Option CredentialKey :=
  (b.credential? (AuthRef.ofText auth).credential).map fun credential =>
    ⟨(AuthRef.ofText auth).credential,
      (AuthRef.ofText auth).method.getD credential.defaultMethod⟩

/-- The key of a reference has the method that it names, or the default one of the credential. -/
theorem key?_eq {b : Bundle} {auth name : String} {method : Option String}
    {credential : Credential} (ha : AuthRef.ofText auth = ⟨name, method⟩)
    (hc : b.credential? name = some credential) :
    b.key? auth = some ⟨name, method.getD credential.defaultMethod⟩ := by
  unfold key?
  rw [ha, hc]
  rfl

/-- The method of a key. -/
def method? (b : Bundle) (key : CredentialKey) : Option CredentialMethod :=
  (b.credential? key.credential).bind fun credential => credential.methods.get? key.method

/-- A credential may be referred to with its default method or without a method. -/
theorem key?_defaultMethod {b : Bundle} {name : String} {credential : Credential}
    (h : '/' ∉ name.toList) (hc : b.credential? name = some credential) :
    b.key? (name ++ "/" ++ credential.defaultMethod) = b.key? name := by
  rw [key?_eq (AuthRef.ofText_name_method h credential.defaultMethod) hc,
    key?_eq (AuthRef.ofText_name h) hc]
  rfl

/-! ## §2. The graph. -/

/-- References of which one means the key. -/
def RefersTo (b : Bundle) (auths : List String) (key : CredentialKey) : Prop :=
  ∃ auth ∈ auths, b.key? auth = some key

/-- A stage needs the credentials that its request refers to. -/
def StageNeeds (b : Bundle) (s : Stage) (key : CredentialKey) : Prop :=
  ∃ ref request, s.ref = some ref ∧ b.request? ref = some request ∧
    b.RefersTo request.references key

/-- Stages need what one of them needs. -/
def StagesNeed (b : Bundle) (stages : List Stage) (key : CredentialKey) : Prop :=
  ∃ s ∈ stages, b.StageNeeds s key

theorem not_refersTo_nil {b : Bundle} {key : CredentialKey} : ¬ b.RefersTo [] key := by
  rintro ⟨auth, ha, -⟩
  cases ha

/-- A list refers to what its first reference or the rest refer to. -/
theorem refersTo_cons {b : Bundle} {auth : String} {rest : List String} {key : CredentialKey} :
    b.RefersTo (auth :: rest) key ↔ b.RefersTo [auth] key ∨ b.RefersTo rest key := by
  unfold RefersTo
  simp

theorem not_stagesNeed_nil {b : Bundle} {key : CredentialKey} : ¬ b.StagesNeed [] key := by
  rintro ⟨s, hs, -⟩
  cases hs

/-- Stages need what the first one or the rest need. -/
theorem stagesNeed_cons {b : Bundle} {s : Stage} {rest : List Stage} {key : CredentialKey} :
    b.StagesNeed (s :: rest) key ↔ b.StageNeeds s key ∨ b.StagesNeed rest key := by
  unfold StagesNeed
  simp

/-- **THE ACQUISITION GRAPH**: a key needs what the stages of its method need. -/
def Needs (b : Bundle) (key other : CredentialKey) : Prop :=
  ∃ method stages, b.method? key = some method ∧ method.stages = some stages ∧
    b.StagesNeed stages other

/-- Each of these keys needs one of them, so none can be the first to be had. -/
def Circular (b : Bundle) (keys : CredentialKey → Prop) : Prop :=
  ∀ key, keys key → ∃ other, b.Needs key other ∧ keys other

end Bundle

/-- A method that is found for a reference is that of its key. -/
theorem Setup.method_eq_ok {c : Setup} {auth : String} {key : CredentialKey}
    {credential : Credential} {method : CredentialMethod}
    (h : c.method auth = .ok (key, credential, method)) :
    c.bundle.key? auth = some key ∧ c.bundle.method? key = some method := by
  unfold Setup.method at h
  dsimp only at h
  split at h
  · cases h
  · next cr hc =>
    split at h
    · cases h
    · next m hm =>
      cases h
      unfold Bundle.key? Bundle.method?
      simp only [hc, Option.map_some, Option.bind_some]
      exact ⟨trivial, hm⟩

theorem Setup.credential_of_method {c : Setup} {auth : String} {key : CredentialKey}
    {credential : Credential} {method : CredentialMethod}
    (h : c.method auth = .ok (key, credential, method)) :
    c.bundle.credential? key.credential = some credential := by
  unfold Setup.method at h
  dsimp only at h
  split at h
  · cases h
  · next cr hc =>
    split at h
    · cases h
    · cases h
      exact hc

/-- A reference that cannot be followed means no method. -/
theorem Setup.method_eq_error {c : Setup} {auth : String} {e : RunError} {key : CredentialKey}
    (h : c.method auth = .error e) (hk : c.bundle.key? auth = some key) :
    c.bundle.method? key = none := by
  unfold Setup.method at h
  unfold Bundle.key? at hk
  dsimp only at h
  split at h
  · next hc =>
    rw [hc] at hk
    cases hk
  · next cr hc =>
    rw [hc] at hk
    cases hk
    split at h
    · next hm =>
      unfold Bundle.method?
      simp only [hc, Option.bind_some]
      exact hm
    · cases h

/-! ## §3. Circular keys are avoided. -/

/-- None of these keys is kept. -/
def CredentialCache.Lacks (cache : CredentialCache) (keys : CredentialKey → Prop) : Prop :=
  ∀ key, keys key → cache.get? key = none

/-- A value for another key leaves these keys absent. -/
theorem CredentialCache.Lacks.insert {cache : CredentialCache} {keys : CredentialKey → Prop}
    (h : cache.Lacks keys) {key : CredentialKey} (hk : ¬ keys key) (value : String) :
    (cache.insert key value).Lacks keys := by
  intro other ho
  have hne : other ≠ key := by
    rintro rfl
    exact hk ho
  rw [CredentialCache.get?_insert, if_neg hne]
  exact h other ho

/-- What comes of something that needs keys: the keys to avoid are still not
kept, and if it succeeded it needed none of them. -/
structure Outcome.Avoids {α : Type} (o : Outcome α) (keys needs : CredentialKey → Prop) :
    Prop where
  lacks : o.after.cache.Lacks keys
  spared : o.value.isSome → ∀ key, keys key → ¬ needs key

/-- A failure only has to leave the keys absent. -/
theorem Outcome.Avoids.of_failure {α : Type} {keys needs : CredentialKey → Prop} {m : Moment}
    (h : m.cache.Lacks keys) (trace : List Event) :
    Outcome.Avoids (⟨none, trace, m⟩ : Outcome α) keys needs := by
  refine ⟨h, ?_⟩
  intro hv
  cases hv

section Avoids

variable {c : Setup} {t : Transport} {nested : Runner} {keys : CredentialKey → Prop}

/-- The playbooks that a runner runs avoid the keys. -/
def Runner.Avoids (nested : Runner) (b : Bundle) (t : Transport)
    (keys : CredentialKey → Prop) : Prop :=
  nested.Ensures t fun _ stages m o => m.cache.Lacks keys → o.Avoids keys (b.StagesNeed stages)

/-- Acquiring the scopes of a credential leaves the keys absent. -/
theorem AcquisitionRun.lacks (hn : nested.Avoids c.bundle t keys) {auth : String}
    {method : CredentialMethod} {stack scopes : ScopeStack} {m m' : Moment} {trace : List Event}
    (hm : m.cache.Lacks keys)
    (h : AcquisitionRun t nested auth method stack m scopes trace m') : m'.cache.Lacks keys := by
  cases h with
  | direct hs => exact hm
  | staged hs ho => exact (hn.of_outcome ho hm).lacks

/-- A key that needs one to avoid is not acquired. -/
theorem AcquisitionRun.spared (hn : nested.Avoids c.bundle t keys)
    (hc : c.bundle.Circular keys) {auth : String} {key : CredentialKey}
    {method : CredentialMethod} {stack scopes : ScopeStack} {m m' : Moment} {trace : List Event}
    (hm : m.cache.Lacks keys) (hk : c.bundle.method? key = some method)
    (h : AcquisitionRun t nested auth method stack m scopes trace m') : ¬ keys key := by
  intro hkey
  -- the stages of its method need such a key themselves, and they succeeded
  obtain ⟨other, ⟨method', stages, hk', hs', hneeds⟩, hother⟩ := hc key hkey
  rw [hk] at hk'
  cases hk'
  cases h with
  | direct hs =>
    rw [hs] at hs'
    cases hs'
  | staged hs ho =>
    rw [hs] at hs'
    cases hs'
    exact (hn.of_outcome ho hm).spared rfl other hother hneeds

/-- **A CREDENTIAL THAT WAS HAD** has none of the keys: kept it cannot be, and its stages would need
another of them. -/
theorem CredentialRun.avoids (hn : nested.Avoids c.bundle t keys) (hc : c.bundle.Circular keys)
    {auth : String} {stack : ScopeStack} {m : Moment} {o : Outcome ResolvedCredential}
    (hm : m.cache.Lacks keys) (h : CredentialRun c t nested stack auth m o) :
    o.Avoids keys (c.bundle.RefersTo [auth]) := by
  have spared {key : CredentialKey} (hk : c.bundle.key? auth = some key) (hkey : ¬ keys key) :
      ∀ other, keys other → ¬ c.bundle.RefersTo [auth] other := by
    rintro other ho ⟨auth', ha, hk'⟩
    cases List.mem_singleton.mp ha
    rw [hk] at hk'
    cases hk'
    exact hkey ho
  cases h with
  | unknown hmethod => exact .of_failure hm _
  | @kept key credential method value hmethod hk =>
    -- a key that is kept is none of them
    refine ⟨hm, fun _ => spared (Setup.method_eq_ok hmethod).1 ?_⟩
    intro hkey
    rw [hm key hkey] at hk
    cases hk
  | notAcquired hmethod hk hs ho => exact .of_failure (hn.of_outcome ho hm).lacks _
  | incomplete hmethod hk ha hf hmissing => exact .of_failure (ha.lacks hn hm) _
  | obtained hmethod hk ha hf hmissing =>
    obtain ⟨hauth, hmethod⟩ := Setup.method_eq_ok hmethod
    have hkey := ha.spared hn hc hm hmethod
    exact ⟨(ha.lacks hn hm).insert hkey _, fun _ => spared hauth hkey⟩

/-- Credentials that were all had refer to none of the keys. -/
theorem CredentialsRun.avoids (hn : nested.Avoids c.bundle t keys) (hc : c.bundle.Circular keys)
    {auths : List String} {stack : ScopeStack} {result : AuthResult} {m : Moment}
    {o : Outcome AuthResult} (hm : m.cache.Lacks keys)
    (h : CredentialsRun c t nested stack auths result m o) :
    o.Avoids keys (c.bundle.RefersTo auths) := by
  induction h with
  | done => exact ⟨hm, fun _ _ _ => Bundle.not_refersTo_nil⟩
  | failed h => exact .of_failure (h.avoids hn hc hm).lacks _
  | next h hr ih =>
    -- the first credential left the keys absent, so the rest starts as it did
    have hfirst := h.avoids hn hc hm
    have hrest := ih hfirst.lacks
    refine ⟨hrest.lacks, ?_⟩
    intro hv key hkey hrefers
    rcases Bundle.refersTo_cons.mp hrefers with hrefers | hrefers
    · exact hfirst.spared rfl key hkey hrefers
    · exact hrest.spared hv key hkey hrefers

/-- Delivering a request leaves the cache as it is. -/
theorem RequestRun.cache_eq {playbook : String} {index : Nat} {s : Stage} {outer : ScopeStack}
    {request : Request} {credentials : AuthResult} {m : Moment} {o : Outcome ScopeStack}
    (h : RequestRun c t playbook index s outer request credentials m o) :
    o.after.cache = m.cache := by
  cases h <;> rfl

/-- A stage that succeeds needs none of the keys. -/
theorem StageRun.avoids (hn : nested.Avoids c.bundle t keys) (hc : c.bundle.Circular keys)
    {playbook : String} {index : Nat} {s : Stage} {outer : ScopeStack} {m : Moment}
    {o : Outcome ScopeStack} (hm : m.cache.Lacks keys)
    (h : StageRun c t nested playbook index s outer m o) :
    o.Avoids keys (c.bundle.StageNeeds s) := by
  cases h with
  | noRequest hr => exact .of_failure hm _
  | noCredentials hr h => exact .of_failure (h.avoids hn hc hm).lacks _
  | @ran ref request credentials trace m' o hr h ho =>
    have hfirst := h.avoids hn hc hm
    refine ⟨?_, ?_⟩
    · show o.after.cache.Lacks keys
      rw [ho.cache_eq]
      exact hfirst.lacks
    · rintro - key hkey ⟨ref', request', hs, hrequest, hneeds⟩
      obtain ⟨hs', hrequest'⟩ := stageRequest_eq_ok c hr
      -- the stage refers to one request only
      rw [hs'] at hs
      cases hs
      rw [hrequest'] at hrequest
      cases hrequest
      exact hfirst.spared rfl key hkey hneeds

theorem StagesRun.avoids (hn : nested.Avoids c.bundle t keys) (hc : c.bundle.Circular keys)
    {playbook : String} {stack assigned : ScopeStack} {index : Nat} {stages : List Stage}
    {m : Moment} {o : Outcome ScopeStack} (hm : m.cache.Lacks keys)
    (h : StagesRun c t nested playbook stack index assigned stages m o) :
    o.Avoids keys (c.bundle.StagesNeed stages) := by
  induction h with
  | done => exact ⟨hm, fun _ _ _ => Bundle.not_stagesNeed_nil⟩
  | failed h => exact .of_failure (h.avoids hn hc hm).lacks _
  | next h hr ih =>
    have hfirst := h.avoids hn hc hm
    have hrest := ih hfirst.lacks
    refine ⟨hrest.lacks, ?_⟩
    intro hv key hkey hneeds
    rcases Bundle.stagesNeed_cons.mp hneeds with hneeds | hneeds
    · exact hfirst.spared rfl key hkey hneeds
    · exact hrest.spared hv key hkey hneeds

/-- A playbook needs what its stages need. -/
theorem PlaybookRun.avoids (hn : nested.Avoids c.bundle t keys) (hc : c.bundle.Circular keys)
    {name : String} {stages : List Stage} {stack : ScopeStack} {m : Moment}
    {o : Outcome ScopeStack} (hm : m.cache.Lacks keys)
    (h : PlaybookRun c t nested name stages stack m o) :
    o.Avoids keys (c.bundle.StagesNeed stages) := by
  cases h with
  | failed hs =>
    have h := hs.avoids hn hc hm
    exact ⟨h.lacks, h.spared⟩
  | finished hs =>
    have h := hs.avoids hn hc hm
    exact ⟨h.lacks, h.spared⟩

end Avoids

/-- Circular keys are avoided by playbooks at any depth. -/
theorem playbookWithin_avoids (c : Setup) (t : Transport) {keys : CredentialKey → Prop}
    (hc : c.bundle.Circular keys) (levels depth : Nat) :
    (c.playbookWithin levels depth).Avoids c.bundle t keys := by
  refine playbookWithin_induction c t
    (P := fun _ _ stages m o => m.cache.Lacks keys → o.Avoids keys (c.bundle.StagesNeed stages))
    ?_ ?_ levels depth
  · intro name stages m hm
    exact .of_failure hm _
  · intro levels depth ih name stages stack m o h hm
    exact h.avoids ih hc hm

/-! ## §4. What is obtained is reached over absent keys. -/

/-- A key needs another one that is not kept. -/
def Bundle.NeedsAbsent (b : Bundle) (cache : CredentialCache) (key other : CredentialKey) : Prop :=
  b.Needs key other ∧ cache.get? other = none

/-- A key is reached from one that is needed, and no key on the way is kept. -/
def Bundle.Reached (b : Bundle) (cache : CredentialCache) (needs : CredentialKey → Prop)
    (key : CredentialKey) : Prop :=
  ∃ first, needs first ∧ cache.get? first = none ∧
    Relation.ReflTransGen (b.NeedsAbsent cache) first key

/-- All that one cache keeps, the other one does too. -/
def CredentialCache.Within (cache other : CredentialCache) : Prop :=
  ∀ key, other.get? key = none → cache.get? key = none

/-- With more kept, less is reached. -/
theorem Bundle.Reached.mono {b : Bundle} {cache cache' : CredentialCache}
    {needs needs' : CredentialKey → Prop} {key : CredentialKey} (hc : cache.Within cache')
    (hneeds : ∀ key, needs' key → needs key) (h : b.Reached cache' needs' key) :
    b.Reached cache needs key := by
  obtain ⟨first, hf, ha, hr⟩ := h
  refine ⟨first, hneeds first hf, hc first ha, ?_⟩
  have step (k other : CredentialKey) (h : b.NeedsAbsent cache' k other) :
      b.NeedsAbsent cache k other := ⟨h.1, hc other h.2⟩
  exact Relation.ReflTransGen.mono step first key hr

/-- A cycle over absent keys: the keys on the way to `key` are circular. -/
theorem Bundle.circular_of_cycle {b : Bundle} {cache : CredentialCache} {key : CredentialKey}
    (h : Relation.TransGen (b.NeedsAbsent cache) key key) :
    b.Circular fun other => cache.get? other = none ∧
      Relation.TransGen (b.NeedsAbsent cache) other key := by
  rintro other ⟨-, ho⟩
  obtain ⟨next, hstep, hrest⟩ := Relation.TransGen.head'_iff.mp ho
  rcases Relation.reflTransGen_iff_eq_or_transGen.mp hrest with rfl | hrest
  · exact ⟨_, hstep.1, hstep.2, h⟩
  · exact ⟨next, hstep.1, hstep.2, hrest⟩

/-- From one cache to a later one nothing is lost, and what is new was reached from
the keys that were needed. -/
structure Gathers (b : Bundle) (needs : CredentialKey → Prop) (cache cache' : CredentialCache) :
    Prop where
  grows : cache.Within cache'
  reached : ∀ key, cache.get? key = none → cache'.get? key = none ∨ b.Reached cache needs key

namespace Gathers

variable {b : Bundle} {cache cache' cache'' : CredentialCache}
  {needs needs' : CredentialKey → Prop}

theorem refl : Gathers b needs cache cache := ⟨fun _ hk => hk, fun _ hk => .inl hk⟩

/-- What is reached from some keys is reached from more of them. -/
theorem mono (h : Gathers b needs' cache cache') (hneeds : ∀ key, needs' key → needs key) :
    Gathers b needs cache cache' :=
  ⟨h.grows, fun key hk => (h.reached key hk).imp_right (·.mono (fun _ hk => hk) hneeds)⟩

/-- What is gathered by one thing after another. -/
theorem trans (h : Gathers b needs cache cache') (h' : Gathers b needs cache' cache'') :
    Gathers b needs cache cache'' := by
  refine ⟨fun key hk => h.grows key (h'.grows key hk), fun key hk => ?_⟩
  rcases h.reached key hk with ha | ha
  · exact (h'.reached key ha).imp_right (·.mono h.grows fun _ hn => hn)
  · exact .inr ha

/-- What is gathered for the stages of a method is gathered for its key. -/
theorem for_key {auth : String} {key : CredentialKey} {method : CredentialMethod}
    {stages : List Stage} (hauth : b.key? auth = some key) (hk : cache.get? key = none)
    (hm : b.method? key = some method) (hs : method.stages = some stages)
    (h : Gathers b (b.StagesNeed stages) cache cache') :
    Gathers b (b.RefersTo [auth]) cache cache' := by
  refine ⟨h.grows, fun other ho => (h.reached other ho).imp_right ?_⟩
  -- the key is absent too, so the way may start at it
  rintro ⟨first, hf, ha, hr⟩
  refine ⟨key, ⟨auth, List.mem_singleton_self auth, hauth⟩, hk, ?_⟩
  exact .head ⟨⟨method, stages, hm, hs, hf⟩, ha⟩ hr

/-- The entry of a key that is needed. -/
theorem insert {auth : String} {key : CredentialKey} (hauth : b.key? auth = some key)
    (hk : cache.get? key = none) (h : Gathers b (b.RefersTo [auth]) cache cache')
    (value : String) : Gathers b (b.RefersTo [auth]) cache (cache'.insert key value) := by
  have get? (other : CredentialKey) (hne : other ≠ key) :
      (cache'.insert key value).get? other = cache'.get? other := by
    rw [CredentialCache.get?_insert, if_neg hne]
  refine ⟨fun other ho => ?_, fun other ho => ?_⟩
  · by_cases hne : other = key
    · rw [hne]
      exact hk
    · rw [get? other hne] at ho
      exact h.grows other ho
  · by_cases hne : other = key
    · subst hne
      exact .inr ⟨other, ⟨auth, List.mem_singleton_self auth, hauth⟩, hk, .refl⟩
    · rw [get? other hne]
      exact h.reached other ho

end Gathers

section Gathers

variable {c : Setup} {t : Transport} {nested : Runner}

/-- The playbooks that a runner runs gather for their stages. -/
def Runner.Gathers (nested : Runner) (b : Bundle) (t : Transport) : Prop :=
  nested.Ensures t fun _ stages m o =>
    ApiPlaybook.Gathers b (b.StagesNeed stages) m.cache o.after.cache

/-- The stages of an absent key gather what can be reached from that key. -/
theorem AcquisitionRun.gathers {b : Bundle} (hn : nested.Gathers b t) {auth : String}
    {key : CredentialKey} {method : CredentialMethod} {stack scopes : ScopeStack} {m m' : Moment}
    {trace : List Event} (hauth : b.key? auth = some key) (hk : m.cache.get? key = none)
    (hm : b.method? key = some method)
    (h : AcquisitionRun t nested auth method stack m scopes trace m') :
    Gathers b (b.RefersTo [auth]) m.cache m'.cache := by
  cases h with
  | direct hs => exact .refl
  | staged hs ho => exact .for_key hauth hk hm hs (hn.of_outcome ho)

/-- A credential gathers its own key and what it had to acquire for it. -/
theorem CredentialRun.gathers (hn : nested.Gathers c.bundle t) {auth : String}
    {stack : ScopeStack} {m : Moment} {o : Outcome ResolvedCredential}
    (h : CredentialRun c t nested stack auth m o) :
    Gathers c.bundle (c.bundle.RefersTo [auth]) m.cache o.after.cache := by
  cases h with
  | unknown hm => exact .refl
  | kept hm hk => exact .refl
  | notAcquired hm hk hs ho =>
    obtain ⟨hauth, hm⟩ := Setup.method_eq_ok hm
    exact .for_key hauth hk hm hs (hn.of_outcome ho)
  | incomplete hm hk ha hf hmissing =>
    obtain ⟨hauth, hm⟩ := Setup.method_eq_ok hm
    exact ha.gathers hn hauth hk hm
  | obtained hm hk ha hf hmissing =>
    obtain ⟨hauth, hm⟩ := Setup.method_eq_ok hm
    exact .insert hauth hk (ha.gathers hn hauth hk hm) _

theorem CredentialsRun.gathers (hn : nested.Gathers c.bundle t) {auths : List String}
    {stack : ScopeStack} {result : AuthResult} {m : Moment} {o : Outcome AuthResult}
    (h : CredentialsRun c t nested stack auths result m o) :
    Gathers c.bundle (c.bundle.RefersTo auths) m.cache o.after.cache := by
  induction h with
  | done => exact .refl
  | failed h => exact .mono (h.gathers hn) fun _ hrefers => Bundle.refersTo_cons.mpr (.inl hrefers)
  | next h hr ih =>
    have hfirst := h.gathers hn
    exact .trans (.mono hfirst fun _ hrefers => Bundle.refersTo_cons.mpr (.inl hrefers))
      (.mono ih fun _ hrefers => Bundle.refersTo_cons.mpr (.inr hrefers))

/-- A stage gathers by its credentials only. -/
theorem StageRun.gathers (hn : nested.Gathers c.bundle t) {playbook : String} {index : Nat}
    {s : Stage} {outer : ScopeStack} {m : Moment} {o : Outcome ScopeStack}
    (h : StageRun c t nested playbook index s outer m o) :
    Gathers c.bundle (c.bundle.StageNeeds s) m.cache o.after.cache := by
  have referred {ref : RequestRef} {request : Request}
      (hr : c.stageRequest index s = .ok (ref, request)) (key : CredentialKey)
      (h : c.bundle.RefersTo request.references key) : c.bundle.StageNeeds s key :=
    ⟨ref, request, (stageRequest_eq_ok c hr).1, (stageRequest_eq_ok c hr).2, h⟩
  cases h with
  | noRequest hr => exact .refl
  | noCredentials hr h => exact .mono (h.gathers hn) (referred hr)
  | @ran ref request credentials trace m' o hr h ho =>
    show Gathers _ _ _ o.after.cache
    rw [ho.cache_eq]
    exact .mono (h.gathers hn) (referred hr)

theorem StagesRun.gathers (hn : nested.Gathers c.bundle t) {playbook : String}
    {stack assigned : ScopeStack} {index : Nat} {stages : List Stage} {m : Moment}
    {o : Outcome ScopeStack} (h : StagesRun c t nested playbook stack index assigned stages m o) :
    Gathers c.bundle (c.bundle.StagesNeed stages) m.cache o.after.cache := by
  induction h with
  | done => exact .refl
  | failed h => exact .mono (h.gathers hn) fun _ hneeds => Bundle.stagesNeed_cons.mpr (.inl hneeds)
  | next h hr ih =>
    have hfirst := h.gathers hn
    exact .trans (.mono hfirst fun _ hneeds => Bundle.stagesNeed_cons.mpr (.inl hneeds))
      (.mono ih fun _ hneeds => Bundle.stagesNeed_cons.mpr (.inr hneeds))

theorem PlaybookRun.gathers (hn : nested.Gathers c.bundle t) {name : String}
    {stages : List Stage} {stack : ScopeStack} {m : Moment} {o : Outcome ScopeStack}
    (h : PlaybookRun c t nested name stages stack m o) :
    Gathers c.bundle (c.bundle.StagesNeed stages) m.cache o.after.cache := by
  cases h with
  | failed hs => exact hs.gathers hn
  | finished hs => exact hs.gathers hn

end Gathers

section Playbooks

variable (c : Setup) (t : Transport)

/-- Playbooks at any depth gather for their stages. -/
theorem playbookWithin_gathers (levels depth : Nat) :
    (c.playbookWithin levels depth).Gathers c.bundle t := by
  refine playbookWithin_induction c t
    (P := fun _ _ stages m o =>
      Gathers c.bundle (c.bundle.StagesNeed stages) m.cache o.after.cache)
    ?_ ?_ levels depth
  · intro name stages m
    exact .refl
  · intro levels depth ih name stages stack m o h
    exact h.gathers ih

/-- **NO CREDENTIAL IS OBTAINED WITHIN ITS OWN ACQUISITION**: the stages of the
method of an absent key leave it absent, whether they succeed or fail. -/
theorem playbookWithin_leaves_absent (levels depth : Nat) {key : CredentialKey}
    {method : CredentialMethod} {stages : List Stage}
    (hm : c.bundle.method? key = some method) (hs : method.stages = some stages)
    (name : String) (stack : ScopeStack) (m : Moment) (hk : m.cache.get? key = none) :
    ((c.playbookWithin levels depth name stages stack).outcome t m).after.cache.get? key
      = none := by
  rcases (playbookWithin_gathers c t levels depth name stages stack m).reached key hk with
    ha | ⟨first, hf, ha, hr⟩
  · exact ha
  · -- had it been obtained, it would lie on a cycle of absent keys
    have hcycle : Relation.TransGen (c.bundle.NeedsAbsent m.cache) key key :=
      .head' ⟨⟨method, stages, hm, hs, hf⟩, ha⟩ hr
    have havoids := playbookWithin_avoids c t (Bundle.circular_of_cycle hcycle) levels depth
    exact (havoids name stages stack m fun _ h => h.1).lacks key ⟨hk, hcycle⟩

end Playbooks

end ApiPlaybook
