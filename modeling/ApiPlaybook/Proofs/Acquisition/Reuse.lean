/-
  ApiPlaybook.Proofs.Acquisition.Reuse
  ────────────────────────────────────
  **CREDENTIALS THAT WERE OBTAINED ARE NOT OBTAINED AGAIN.**

  Obtaining credentials gives two things: the credentials by the references that
  were asked for, and a cache by their keys.  The later references of the list
  and the playbooks they need go on filling that cache, but nothing in it is
  overwritten.  So at the end

      each credential of the result is held by the cache (`Setup.Holds`),

  and with a reference that is held nothing is left to do but to take its value:
  no scope is read, no playbook is run, no request is sent
  (`CredentialRun.of_holds`).  Obtaining the same credentials once more gives the
  same result and leaves the cache as it is (`obtainedForGood_preview`).
-/
import ApiPlaybook.Proofs.Acquisition.Once

namespace ApiPlaybook

/-! ## §1. Caches that keep. -/

/-- What the first cache holds, the second holds with the same value. -/
def CredentialCache.KeptIn (cache cache' : CredentialCache) : Prop :=
  ∀ key value, cache.get? key = some value → cache'.get? key = some value

theorem Records.keptIn {b : Bundle} {cache cache' : CredentialCache} {trace : List Event}
    (h : Records b cache trace cache') : cache.KeptIn cache' := by
  intro key value hk
  rw [← h.after]
  exact h.lawful.get?_mono hk

/-! ## §2. Credentials that a cache holds. -/

/-- The credential is what a reference means, with the value that is kept for it. -/
inductive Setup.Holds (c : Setup) (cache : CredentialCache) (auth : String) :
    ResolvedCredential → Prop where
  | kept {key : CredentialKey} {declared : Credential} {method : CredentialMethod}
      {value : String} (hm : c.method auth = .ok (key, declared, method))
      (hk : cache.get? key = some value) :
      Holds c cache auth ⟨key, value, c.schemeFor key declared⟩

/-- The cache holds all credentials of a result. -/
def Setup.HoldsAll (c : Setup) (cache : CredentialCache) (result : AuthResult) : Prop :=
  ∀ auth credential, result.get? auth = some credential → c.Holds cache auth credential

section Holds

variable {c : Setup} {cache cache' : CredentialCache} {auth : String}
  {credential : ResolvedCredential} {result : AuthResult}

/-- A larger cache holds what a smaller one holds. -/
theorem Setup.Holds.mono (h : c.Holds cache auth credential) (hc : cache.KeptIn cache') :
    c.Holds cache' auth credential := by
  cases h with
  | kept hm hk => exact .kept hm (hc _ _ hk)

/-- A credential that is held is in the cache under the key of its reference. -/
theorem Setup.Holds.agrees (h : c.Holds cache auth credential) :
    c.bundle.key? auth = some credential.key ∧
      cache.get? credential.key = some credential.value := by
  cases h with
  | kept hm hk => exact ⟨(Setup.method_eq_ok hm).1, hk⟩

/-- Neither the bundle nor the API knows of the server that is asked. -/
theorem Setup.Holds.withServer (h : c.Holds cache auth credential) (server : String) :
    Setup.Holds { c with server } cache auth credential := by
  cases h with
  | kept hm hk => exact .kept (c := { c with server }) hm hk

theorem Setup.HoldsAll.mono (h : c.HoldsAll cache result) (hc : cache.KeptIn cache') :
    c.HoldsAll cache' result := fun auth credential hget => (h auth credential hget).mono hc

/-- An empty result is held by any cache. -/
theorem Setup.HoldsAll.empty : c.HoldsAll cache .empty := by
  intro auth credential hget
  cases hget

theorem Setup.HoldsAll.insert (h : c.HoldsAll cache result)
    (hauth : c.Holds cache auth credential) : c.HoldsAll cache (result.insert auth credential) := by
  intro auth' credential' hget
  rw [NameMap.get?_insert] at hget
  by_cases heq : auth' = auth
  · rw [if_pos heq] at hget
    cases hget
    rw [heq]
    exact hauth
  · rw [if_neg heq] at hget
    exact h auth' credential' hget

end Holds

/-! ## §3. What obtaining credentials leaves. -/

section First

variable {c : Setup} {t : Transport} {levels depth : Nat} {stack : ScopeStack}

/-- A credential that was resolved is held from then on. -/
theorem CredentialRun.holds {nested : Runner} {auth : String} {m m' : Moment}
    {trace : List Event} {credential : ResolvedCredential}
    (h : CredentialRun c t nested stack auth m ⟨some credential, trace, m'⟩) :
    c.Holds m'.cache auth credential := by
  cases h with
  | kept hm hk => exact .kept hm hk
  | obtained hm hk ha hf hmissing =>
    refine .kept hm ?_
    rw [CredentialCache.get?_insert, if_pos rfl]

theorem CredentialsRun.holdsAll {auths : List String} {result result' : AuthResult}
    {m m' : Moment} {trace : List Event}
    (h : CredentialsRun c t (c.playbookWithin levels depth) stack auths result m
      ⟨some result', trace, m'⟩) (hr : c.HoldsAll m.cache result) :
    c.HoldsAll m'.cache result' := by
  generalize ho : (⟨some result', trace, m'⟩ : Outcome AuthResult) = o at h
  induction h generalizing trace with
  | done =>
    cases ho
    exact hr
  | failed h => cases ho
  | next h htail ih =>
    cases ho
    -- the credentials before are held on, whatever was obtained for this one
    have hkept := (h.records (playbookWithin_records c t levels depth)).keptIn
    exact ih ((hr.mono hkept).insert h.holds) rfl

/-- The result has the references that were asked for, and those it had before. -/
theorem CredentialsRun.isSome_get? {nested : Runner} {auths : List String}
    {result result' : AuthResult} {m m' : Moment} {trace : List Event}
    (h : CredentialsRun c t nested stack auths result m ⟨some result', trace, m'⟩)
    (auth : String) :
    (result'.get? auth).isSome ↔ auth ∈ auths ∨ (result.get? auth).isSome := by
  generalize ho : (⟨some result', trace, m'⟩ : Outcome AuthResult) = o at h
  induction h generalizing trace with
  | done =>
    cases ho
    simp
  | failed h => cases ho
  | @next first rest result m m₁ m₂ _ _ credential v h htail ih =>
    cases ho
    rw [ih rfl, NameMap.get?_insert]
    by_cases heq : auth = first <;> simp [heq]

end First

/-! ## §4. Obtaining them again. -/

/-- The events of a reference whose value is taken from the cache. -/
def AuthResult.retrieval (result : AuthResult) (auth : String) : List Event :=
  match result.get? auth with
  | some credential =>
    [.authStarted auth, .credentialFromCache auth credential.value, .authFinished]
  | none => []

section Again

variable {c : Setup} {t : Transport} {nested : Runner} {stack : ScopeStack}

/-- Of all ways to obtain a credential only one is open where it is held. -/
theorem CredentialRun.of_holds {auth : String} {credential : ResolvedCredential} {m : Moment}
    {o : Outcome ResolvedCredential} (hh : c.Holds m.cache auth credential)
    (h : CredentialRun c t nested stack auth m o) :
    o = ⟨some credential,
      [.authStarted auth, .credentialFromCache auth credential.value, .authFinished], m⟩ := by
  obtain ⟨hmethod, hkept⟩ := hh
  have absent {key' declared' method'} (hm : c.method auth = .ok (key', declared', method')) :
      m.cache.get? key' ≠ none := by
    rw [hmethod] at hm
    cases hm
    rw [hkept]
    exact Option.some_ne_none _
  -- of the rules for a credential only the one for a kept value applies
  cases h with
  | unknown hm =>
    rw [hmethod] at hm
    cases hm
  | kept hm hk =>
    rw [hmethod] at hm
    cases hm
    rw [hkept] at hk
    cases hk
    rfl
  | notAcquired hm hk hs hn => exact absurd hk (absent hm)
  | incomplete hm hk ha hf hn => exact absurd hk (absent hm)
  | obtained hm hk ha hf hn => exact absurd hk (absent hm)

/-- Where all references are held, their credentials are taken over one by one. -/
theorem CredentialsRun.of_holds {auths : List String} {full result : AuthResult} {m : Moment}
    {o : Outcome AuthResult} (hfull : c.HoldsAll m.cache full)
    (hauths : ∀ auth ∈ auths, (full.get? auth).isSome)
    (h : CredentialsRun c t nested stack auths result m o) :
    ∃ result', o = ⟨some result', auths.flatMap full.retrieval, m⟩ ∧
      ∀ auth, result'.get? auth = if auth ∈ auths then full.get? auth else result.get? auth := by
  induction h with
  | done => exact ⟨_, rfl, fun auth => by simp⟩
  | failed h =>
    obtain ⟨credential, hget⟩ := Option.isSome_iff_exists.mp (hauths _ List.mem_cons_self)
    have hdone := h.of_holds (hfull _ credential hget)
    cases hdone
  | @next first rest result m m₁ m₂ _ _ credential v h htail ih =>
    obtain ⟨hfirst, hrest⟩ := List.forall_mem_cons.mp hauths
    obtain ⟨credential', hget⟩ := Option.isSome_iff_exists.mp hfirst
    have hdone := h.of_holds (hfull first credential' hget)
    cases hdone
    obtain ⟨result', ho, hresult⟩ := ih hfull hrest
    cases ho
    refine ⟨result', ?_, fun auth => ?_⟩
    · rw [List.flatMap_cons, AuthResult.retrieval, hget]
    · rw [hresult, NameMap.get?_insert]
      -- the first reference may be asked for again among the rest, with the same result
      by_cases heq : auth = first
      · subst heq
        simp [hget]
      · simp [heq]

end Again

/-! ## §5. Previews. -/

/-- What obtaining credentials for some references leaves behind, from one cache to
another: with the cache that is left, they are never obtained again. -/
structure ObtainedForGood (c : Setup) (cache : CredentialCache) (auths : List String)
    (result : AuthResult) (cache' : CredentialCache) : Prop where
  /-- There is a credential for each reference and for no other. -/
  references : ∀ auth, (result.get? auth).isSome ↔ auth ∈ auths
  /-- Each is kept under the credential and the method that its reference means. -/
  held : ∀ auth credential, result.get? auth = some credential →
    c.bundle.key? auth = some credential.key ∧
      cache'.get? credential.key = some credential.value
  kept : cache.KeptIn cache'
  /-- Obtaining them again, with whatever server, transport, scopes and depth, takes
  each from the cache. -/
  again : ∀ server t sent stack depth, ∃ warnings,
    (Setup.preview { c with server } cache' auths stack depth).run t sent
      = ⟨(some result, cache'), auths.flatMap result.retrieval, warnings, sent⟩

/-- With all references held, a preview returns the same result and only reports where it comes
from. -/
theorem Setup.HoldsAll.again {c : Setup} {cache : CredentialCache} {auths : List String}
    {result : AuthResult} (h : c.HoldsAll cache result)
    (hr : ∀ auth, (result.get? auth).isSome ↔ auth ∈ auths) (t : Transport)
    (sent : List HttpRequest) (stack : ScopeStack) (depth : Nat) :
    ∃ warnings, (c.preview cache auths stack depth).run t sent
      = ⟨(some result, cache), auths.flatMap result.retrieval, warnings, sent⟩ := by
  have hrun := credentialsRun_resolveAll c t (c.playbookAt (depth + 1)) stack auths .empty
    ⟨cache, sent⟩
  obtain ⟨result', ho, hresult⟩ := hrun.of_holds h fun auth hauth => (hr auth).mpr hauth
  have heq : result' = result := by
    refine NameMap.ext_get? fun auth => ?_
    rw [hresult]
    by_cases hauth : auth ∈ auths
    · rw [if_pos hauth]
    · -- what was not asked for is in neither of the two
      rw [if_neg hauth, NameMap.get?_empty]
      exact (Option.not_isSome_iff_eq_none.mp (mt (hr auth).mp hauth)).symm
  rw [heq] at ho
  exact Step.run_of_outcome ho

/-- **CREDENTIALS ARE OBTAINED FOR GOOD**: when obtaining them succeeds, the result has
exactly the references that were asked for, the cache holds them all with what it
held before, and with that cache they are obtained again by nothing but looking
them up. -/
theorem obtainedForGood_preview (c : Setup) (t : Transport) (sent : List HttpRequest)
    (cache cache' : CredentialCache) (auths : List String) (stack : ScopeStack) (depth : Nat)
    (result : AuthResult)
    (h : ((c.preview cache auths stack depth).run t sent).value = (some result, cache')) :
    ObtainedForGood c cache auths result cache' := by
  have hrun := credentialsRun_resolveAll c t (c.playbookAt (depth + 1)) stack auths .empty
    ⟨cache, sent⟩
  rcases ho : (c.resolveAll (c.playbookAt (depth + 1)) stack auths .empty).outcome t ⟨cache, sent⟩
    with ⟨v, trace, m'⟩
  obtain ⟨warnings, hran⟩ := Step.run_of_outcome ho
  obtain ⟨rfl, rfl⟩ : v = some result ∧ m'.cache = cache' := by
    have hvalue := (congrArg Ran.value hran).symm.trans h
    exact ⟨congrArg Prod.fst hvalue, congrArg Prod.snd hvalue⟩
  rw [ho] at hrun
  -- everything of the result is held by the cache that is left
  have hheld := hrun.holdsAll .empty
  have hreferences : ∀ auth, (result.get? auth).isSome ↔ auth ∈ auths := by
    intro auth
    simpa using hrun.isSome_get? auth
  refine ⟨hreferences, fun auth credential hget => (hheld auth credential hget).agrees,
    (hrun.records (playbookAt_records c t (depth + 1))).keptIn, ?_⟩
  intro server t' sent' stack' depth'
  -- what is held does not depend on the server, so another run may ask elsewhere
  have hserver : Setup.HoldsAll { c with server } m'.cache result :=
    fun auth credential hget => (hheld auth credential hget).withServer server
  exact hserver.again hreferences t' sent' stack' depth'

/-- A credential whose method logs in first, and takes its value from outside. -/
def loginSetup : Setup :=
  let login : Request := ⟨some "login", .empty, [], .ofStatus 200, .empty,
    ⟨none, none, ⟨.empty, .empty, .empty, .empty⟩, none⟩⟩
  let session : Credential := ⟨some .bearer, none, none, "login",
    .ofList [("login", ⟨"{{token}}", some [.ofRef ⟨.operation, "login"⟩]⟩)]⟩
  ⟨⟨.ofList [("login", ⟨login, [], [], .empty⟩)], .empty, [], [],
      [.ofList [("session", session)]], .empty, none⟩,
    ⟨.ofMembers [("paths", .ofMembers [("/login", .ofMembers
      [("get", .ofMembers [("operationId", .string "login")])])])]⟩, "coap://api.test"⟩

/-- A token for the template. -/
def tokenScope : Scope := .ofVariables "tokens" (.ofList [("token", .string "t-1")])

/-- One credential by two references: for the first a request is sent, the second finds
the value in the cache already. -/
theorem obtainedForGood_login :
    ∃ result cache',
      ((loginSetup.preview .empty ["session", "session/login"] [tokenScope] 0).run
          (.ofAnswers [.ok (.response ⟨200, .empty, "{}"⟩)]) []).value = (some result, cache') ∧
        ObtainedForGood loginSetup .empty ["session", "session/login"] result cache' := by
  have hdone : ((loginSetup.preview .empty ["session", "session/login"] [tokenScope] 0).run
      (.ofAnswers [.ok (.response ⟨200, .empty, "{}"⟩)]) []).value.1.isSome = true := by
    decide +kernel
  obtain ⟨result, hresult⟩ := Option.isSome_iff_exists.mp hdone
  refine ⟨result, _, Prod.ext hresult rfl, ?_⟩
  exact obtainedForGood_preview loginSetup _ [] .empty _ ["session", "session/login"]
    [tokenScope] 0 result (Prod.ext hresult rfl)

end ApiPlaybook
