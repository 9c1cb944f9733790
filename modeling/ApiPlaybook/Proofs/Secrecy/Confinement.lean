/-
  ApiPlaybook.Proofs.Secrecy.Confinement
  ──────────────────────────────────────
  **WHAT THE LINES OF A RUN TELL OF A SECRET.**

  A runtime value is confined to credentials if the names that import it stand in
  no template but those of credentials, and no rule reads back a header that
  carries such a credential (`Setup.Confines`).  If none of these is carried in the
  query of a URL either (`Setup.HidesFromUrls`), runs with two values of it show the
  same lines and set the same variables (`indistinct_runAll`).

  The last condition cannot be left out: the line of a request shows its URL, and
  with it whatever the query carries (`not_indistinct_keyInQuery`).
-/
import ApiPlaybook.Proofs.Acquisition.Needs
import ApiPlaybook.Proofs.Secrecy.Requests
import ApiPlaybook.Proofs.Secrecy.SameLines
import ApiPlaybook.Proofs.Template.LookUps

namespace ApiPlaybook

/-! ## §1. Environments. -/

/-- Scopes with the same names, and the same values but for secret names. -/
structure Scope.Apart (secret : String → Prop) (e e' : Scope) : Prop where
  id_eq : e.id = e'.id
  vars : e.vars.Alike (fun name v v' => secret name ∨ v = v') e'.vars

/-- The values differ in what one name has, and both have some. -/
structure RuntimeValues.DifferAt (runtimeName : String) (values values' : RuntimeValues) :
    Prop where
  isSome_eq : (values.value? runtimeName).isSome = (values'.value? runtimeName).isSome
  others : ∀ name, name ≠ runtimeName → values.value? name = values'.value? name

/-- The selected environment imports the runtime value under that name. -/
def Bundle.Imports (b : Bundle) (runtimeName name : String) : Prop :=
  ∃ decl v, b.environments.get? b.environmentName = some decl ∧
    (name, v) ∈ decl.imports.entries ∧ v.runtimeName = runtimeName

section Environments

variable {secret : String → Prop} {runtimeName : String} {values values' : RuntimeValues}

/-- All other runtime names have the same value. -/
theorem RuntimeValues.DifferAt.value?_alike (h : values.DifferAt runtimeName values')
    (name : String) :
    Option.Rel (fun j j' => name = runtimeName ∨ j = j') (values.value? name)
      (values'.value? name) := by
  by_cases hn : name = runtimeName
  · exact rel_of_isSome_eq (fun _ _ => .inl hn) (hn ▸ h.isSome_eq)
  · rw [h.others name hn]
    exact rel_refl fun _ => .inr rfl

/-- Without a runtime value both fall back on the declaration. -/
theorem ImportedVariable.value?_alike (h : values.DifferAt runtimeName values')
    (v : ImportedVariable) :
    Option.Rel (fun j j' => v.runtimeName = runtimeName ∨ j = j') (v.value? values)
      (v.value? values') :=
  rel_or (h.value?_alike v.runtimeName) (rel_refl fun _ => .inr rfl)

theorem EnvironmentDecl.bindings_alike (h : values.DifferAt runtimeName values')
    (decl : EnvironmentDecl)
    (hs : ∀ e ∈ decl.imports.entries, e.2.runtimeName = runtimeName → secret e.1) :
    List.Forall₂ (EntryAlike fun name j j' => secret name ∨ j = j') (decl.bindings values)
      (decl.bindings values') := by
  -- both go over the same entries, those of `hs`
  let R (e e' : String × ImportedVariable) : Prop :=
    e = e' ∧ (e.2.runtimeName = runtimeName → secret e.1)
  have hentries : List.Forall₂ R decl.imports.entries decl.imports.entries :=
    List.forall₂_same.mpr fun e he => ⟨rfl, hs e he⟩
  refine List.rel_filterMap ?_ hentries
  rintro ⟨name, v⟩ _ ⟨rfl, hsecret⟩
  exact rel_map (v.value?_alike h) fun j j' hj => ⟨rfl, hj.imp_left hsecret⟩

/-- Only what imports the runtime value differs between the two environments. -/
theorem Bundle.importEnvironment_apart (b : Bundle) (h : values.DifferAt runtimeName values') :
    (b.importEnvironment values).scope.Apart (b.Imports runtimeName)
      (b.importEnvironment values').scope := by
  unfold Bundle.importEnvironment
  cases hd : b.environments.get? b.environmentName with
  | none => exact ⟨rfl, .empty⟩
  | some decl =>
    refine ⟨rfl, .ofList (decl.bindings_alike h ?_)⟩
    intro e he hv
    exact ⟨decl, e.2, hd, he, hv⟩

/-! ## §2. What is looked up. -/

/-- A name is looked up in the outermost scope last. -/
theorem ScopeStack.resolve?_cons (e : Scope) (rest : ScopeStack) (name : String) :
    ScopeStack.resolve? (e :: rest) name
      = (ScopeStack.resolve? rest name).or ((e.vars.get? name).map (·, e)) := by
  unfold ScopeStack.resolve?
  rw [List.reverse_cons, List.findSome?_append, List.findSome?_singleton]

namespace Scope.Apart

variable {e e' : Scope}

/-- Scopes that are apart have values for the same names. -/
theorem isSome_resolve? (h : e.Apart secret e') (rest : ScopeStack) (name : String) :
    (ScopeStack.resolve? (e :: rest) name).isSome
      = (ScopeStack.resolve? (e' :: rest) name).isSome := by
  rw [ScopeStack.resolve?_cons, ScopeStack.resolve?_cons, Option.isSome_or, Option.isSome_or,
    Option.isSome_map, Option.isSome_map, isSome_eq_of_rel (h.vars.get? name)]

/-- And the same values for all names that are no secret. -/
theorem sameAt (h : e.Apart secret e') (rest : ScopeStack) {name : String} (hn : ¬ secret name) :
    ScopeStack.SameAt (e :: rest) (e' :: rest) name := by
  unfold ScopeStack.SameAt
  rw [ScopeStack.resolve?_cons, ScopeStack.resolve?_cons]
  cases ScopeStack.resolve? rest name with
  | some found => rfl
  | none =>
    have hv : e.vars.get? name = e'.vars.get? name :=
      eq_of_rel (h.vars.get? name) fun _ _ hj => hj.resolve_left hn
    rw [hv]
    simp only [Option.none_or, Option.map_map, Function.comp_def, h.id_eq]

/-- Look-ups of no secret name give the same. -/
theorem sameFor (h : e.Apart secret e') (rest : ScopeStack) {ls : List LookUp}
    (hl : ∀ l ∈ ls, ¬ secret l.name) : ScopeStack.SameFor (e :: rest) (e' :: rest) ls :=
  fun l hmem => h.sameAt rest (hl l hmem)

end Scope.Apart

end Environments

/-- The look-ups for a request: for its variables and its template. -/
def Request.lookUps (r : Request) : List LookUp :=
  scopeLookUps requestScopeId r.vars ++ r.template.lookUps

section Templates

variable {secret : String → Prop} {e e' : Scope}

/-- A payload without secret names is the same, but for the scopes it was made in. -/
theorem Stage.payload_congr (h : e.Apart secret e') (rest : ScopeStack) {s : Stage}
    (hs : ∀ l ∈ scopeLookUps stageScopeId s.vars, ¬ secret l.name) {request : Request}
    (hr : ∀ l ∈ request.lookUps, ¬ secret l.name) :
    (s.payload request (e :: rest)).template = (s.payload request (e' :: rest)).template ∧
      (s.payload request (e :: rest)).missing = (s.payload request (e' :: rest)).missing := by
  obtain ⟨hown, htemplate⟩ := List.forall_mem_append.mp hr
  have hstage := substituteScope_congr (h.sameFor rest hs)
  unfold Stage.payload
  rw [hstage]
  generalize substituteScope stageScopeId s.vars (e' :: rest) = stage
  have hrequest := substituteScope_congr (h.sameFor (rest ++ [stage.value]) hown)
  dsimp only [List.cons_append]
  rw [hrequest]
  generalize substituteScope requestScopeId request.vars (e' :: (rest ++ [stage.value])) = own
  have hfilled := substituteTemplate_congr (t := request.template)
    (h.sameFor (rest ++ [stage.value] ++ [own.value]) htemplate)
  rw [hfilled]
  exact ⟨rfl, rfl⟩

/-- The template refers to a secret name. -/
def CredentialMethod.RefersTo (secret : String → Prop) (m : CredentialMethod) : Prop :=
  ∃ name ∈ variableNames m.template, secret name

/-- A template that does not refer to a secret does not look one up. -/
theorem CredentialMethod.lookUps_of_not_refersTo {m : CredentialMethod}
    (h : ¬ m.RefersTo secret) : ∀ l ∈ textLookUps "/credential" m.template, ¬ secret l.name := by
  intro l hl hs
  obtain ⟨name, hname, rfl⟩ := List.mem_map.mp hl
  exact h ⟨name, hname, hs⟩

/-- The value of a credential is the same, or it is made of a secret. -/
theorem substituteCredential_alike (h : e.Apart secret e') (rest : ScopeStack)
    (m : CredentialMethod) :
    m.RefersTo secret ∨ (substituteCredential m.template (e :: rest)).value
      = (substituteCredential m.template (e' :: rest)).value := by
  by_cases hm : m.RefersTo secret
  · exact .inl hm
  · have hsame := h.sameFor rest (CredentialMethod.lookUps_of_not_refersTo hm)
    exact .inr (congrArg (·.value) (substituteCredential_congr hsame))

/-- Which names are missing does not depend on the secret. -/
theorem substituteCredential_missing (h : e.Apart secret e') (rest : ScopeStack)
    (template : String) :
    (substituteCredential template (e :: rest)).missing
      = (substituteCredential template (e' :: rest)).missing :=
  (substituteCredential_makes (e :: rest) template).missing_eq
    (substituteCredential_makes (e' :: rest) template) fun l _ => h.isSome_resolve? rest l.name

end Templates

/-! ## §3. Secrets that stay in credentials. -/

/-- The credential of that key is made of a secret. -/
def Bundle.MadeOf (b : Bundle) (secret : String → Prop) (key : CredentialKey) : Prop :=
  ∃ method, b.method? key = some method ∧ method.RefersTo secret

/-- For these references a header of that name, in lower case, carries a credential made
of a secret. -/
def Setup.Carries (c : Setup) (secret : String → Prop) (auths : List String) (header : String) :
    Prop :=
  ∃ auth ∈ auths, ∃ key credential scheme name, c.bundle.key? auth = some key ∧
    c.bundle.MadeOf secret key ∧ c.bundle.credential? key.credential = some credential ∧
    c.schemeFor key credential = some scheme ∧
    scheme.header? key.credential = some name ∧ lowerAscii name = header

/-- The request uses secrets for its credentials only, and no rule of it reads one of
them back. -/
structure Setup.SparesRequest (c : Setup) (secret : String → Prop) (r : Request) : Prop where
  lookUps : ∀ l ∈ r.lookUps, ¬ secret l.name
  rules : r.responses.Spare (c.Carries secret r.references)

/-- The stage uses no secrets, and no rule of it reads back a credential of its request. -/
structure Setup.SparesStage (c : Setup) (secret : String → Prop) (s : Stage) : Prop where
  lookUps : ∀ l ∈ scopeLookUps stageScopeId s.vars, ¬ secret l.name
  rules : ∀ ref request, s.ref = some ref → c.bundle.request? ref = some request →
    s.responses.Spare (c.Carries secret request.references)

/-- Secret names stand in templates of credentials only, and what is made of them is
read back by no rule. -/
structure Setup.Confines (c : Setup) (secret : String → Prop) (ps : List Playbook) : Prop where
  requests : ∀ ref request, c.bundle.request? ref = some request → c.SparesRequest secret request
  playbooks : ∀ p ∈ ps, ∀ s ∈ p.stages, c.SparesStage secret s
  acquisitions : ∀ key method stages, c.bundle.method? key = some method →
    method.stages = some stages → ∀ s ∈ stages, c.SparesStage secret s

/-- No credential of a request that is made of a secret is carried in the query. -/
def Setup.HidesFromUrls (c : Setup) (secret : String → Prop) : Prop :=
  ∀ ref request, c.bundle.request? ref = some request → ∀ auth ∈ request.references,
    ∀ key credential scheme, c.bundle.key? auth = some key → c.bundle.MadeOf secret key →
      c.bundle.credential? key.credential = some credential →
      c.schemeFor key credential = some scheme → scheme.header? key.credential ≠ none

/-! ## §4. Runs with two values. -/

section Runs

variable {c : Setup} {secret : String → Prop} {ps : List Playbook} {t : Transport} {e e' : Scope}
  {nested : Runner}

/-- Two runs that are compared: only secrets differ, which are confined and not carried
in URLs, and the answers are the same. -/
structure Compared (c : Setup) (secret : String → Prop) (ps : List Playbook) (t : Transport)
    (e e' : Scope) : Prop where
  confines : c.Confines secret ps
  hides : c.HidesFromUrls secret
  scripted : t.Scripted
  apart : e.Apart secret e'

/-- The playbooks that a runner runs do alike with either environment, and set the
same scopes. -/
def Runner.Alike (nested : Runner) (c : Setup) (secret : String → Prop) (t : Transport)
    (e e' : Scope) : Prop :=
  ∀ name stages rest, (∀ s ∈ stages, c.SparesStage secret s) →
    Step.Alike (c.bundle.MadeOf secret) t Eq (nested name stages (e :: rest))
      (nested name stages (e' :: rest))

/-- The same scopes in either environment. -/
def SameBehind (e e' : Scope) (stack stack' : ScopeStack) : Prop :=
  ∃ rest, stack = e :: rest ∧ stack' = e' :: rest

/-- The stages of a credential set the same scopes, since they are spared. -/
theorem acquisitionScopes_alike (hc : Compared c secret ps t e e')
    (hn : nested.Alike c secret t e e') (auth : String) {key : CredentialKey}
    {method : CredentialMethod} (hm : c.bundle.method? key = some method) (rest : ScopeStack) :
    Step.Alike (c.bundle.MadeOf secret) t (SameBehind e e')
      (Setup.acquisitionScopes nested auth method (e :: rest))
      (Setup.acquisitionScopes nested auth method (e' :: rest)) := by
  unfold Setup.acquisitionScopes
  cases hs : method.stages with
  | none => exact .pure ⟨rest, rfl, rfl⟩
  | some stages =>
    have hstages := hn auth stages rest (hc.confines.acquisitions key method stages hm hs)
    refine .bind (.orFail hstages _) fun assigned assigned' ha => ?_
    rw [ha]
    exact .pure ⟨rest ++ assigned', rfl, rfl⟩

/-- The value differs only where the template refers to a secret. -/
theorem acquire_alike (hc : Compared c secret ps t e e')
    (hn : nested.Alike c secret t e e') (auth : String) {key : CredentialKey}
    {method : CredentialMethod} (hm : c.bundle.method? key = some method) (rest : ScopeStack) :
    Step.Alike (c.bundle.MadeOf secret) t (fun v v' => c.bundle.MadeOf secret key ∨ v = v')
      (Setup.acquire nested auth key method (e :: rest))
      (Setup.acquire nested auth key method (e' :: rest)) := by
  unfold Setup.acquire
  refine .bind (acquisitionScopes_alike hc hn auth hm rest) fun scopes scopes' hs => ?_
  obtain ⟨rest', rfl, rfl⟩ := hs
  have hmissing := substituteCredential_missing hc.apart rest' method.template
  have hvalue : c.bundle.MadeOf secret key ∨
      (substituteCredential method.template (e :: rest')).value
        = (substituteCredential method.template (e' :: rest')).value :=
    (substituteCredential_alike hc.apart rest' method).imp_left fun hr => ⟨method, hm, hr⟩
  refine .bind (.report (.credentialSubstituted _ _ _ _ _ _ _ hmissing)) fun _ _ _ => ?_
  refine .unless_missing (e := fun missing =>
    .authAborted (.credentialVariablesMissing auth (missingNamesText missing))) hmissing ?_
  exact .bind (.keep hvalue) fun _ _ _ => .pure hvalue

theorem credentialValue_alike (hc : Compared c secret ps t e e')
    (hn : nested.Alike c secret t e e') (auth : String) {key : CredentialKey}
    {method : CredentialMethod} (hm : c.bundle.method? key = some method) (rest : ScopeStack) :
    Step.Alike (c.bundle.MadeOf secret) t (fun v v' => c.bundle.MadeOf secret key ∨ v = v')
      (Setup.credentialValue nested auth key method (e :: rest))
      (Setup.credentialValue nested auth key method (e' :: rest)) := by
  unfold Setup.credentialValue
  refine .bind (.kept? key) fun v v' hv => ?_
  cases hv with
  | some hv => exact .bind (.report (.credentialFromCache ..)) fun _ _ _ => .pure hv
  | none => exact acquire_alike hc hn auth hm rest

/-- A credential made of a secret is carried in a header. -/
theorem Setup.HidesFromUrls.hidden (hq : c.HidesFromUrls secret) {ref : RequestRef}
    {request : Request} (hr : c.bundle.request? ref = some request) {auth : String}
    (ha : auth ∈ request.references) {key : CredentialKey} {credential : Credential}
    {method : CredentialMethod}
    (hm : c.method auth = .ok (key, credential, method)) (hk : c.bundle.MadeOf secret key)
    (value : String) :
    ResolvedCredential.Hidden (c.Carries secret request.references)
      ⟨key, value, c.schemeFor key credential⟩ := by
  obtain ⟨hauth, -⟩ := Setup.method_eq_ok hm
  have hcredential := Setup.credential_of_method hm
  refine ⟨fun scheme hscheme => ?_⟩
  have hquery := hq ref request hr auth ha key credential scheme hauth hk hcredential hscheme
  obtain ⟨header, hheader⟩ := Option.ne_none_iff_exists'.mp hquery
  exact ⟨header, hheader, auth, ha, key, credential, scheme, header, hauth, hk, hcredential,
    hscheme, hheader, rfl⟩

/-- A credential differs in its value only, and only where a header carries it. -/
theorem resolve_alike (hc : Compared c secret ps t e e') (hn : nested.Alike c secret t e e')
    {ref : RequestRef} {request : Request} (hr : c.bundle.request? ref = some request)
    {auth : String} (ha : auth ∈ request.references) (rest : ScopeStack) :
    Step.Alike (c.bundle.MadeOf secret) t
      (ResolvedCredential.Alike (c.Carries secret request.references))
      (c.resolve nested (e :: rest) auth) (c.resolve nested (e' :: rest) auth) := by
  unfold Setup.resolve
  refine .bind (.report (.refl _)) fun _ _ _ => ?_
  cases hm : c.method auth with
  | error error => exact .fail (.refl _)
  | ok found =>
    obtain ⟨key, credential, method⟩ := found
    have hmethod := (Setup.method_eq_ok hm).2
    refine .bind (credentialValue_alike hc hn auth hmethod rest) fun v v' hv => ?_
    -- both take the scheme that the API declares
    refine .bind (.ofWarned (R := fun d d' => d = (c.api.securityScheme? key.credential).value ∧
      d' = d) ⟨rfl, rfl⟩) fun declared declared' hd => ?_
    obtain ⟨rfl, rfl⟩ := hd
    refine .bind (.report (.refl _)) fun _ _ _ => .pure ⟨rfl, rfl, ?_⟩
    exact hv.imp_left fun hk => hc.hides.hidden hr ha hm hk v

theorem resolveAll_alike (hc : Compared c secret ps t e e') (hn : nested.Alike c secret t e e')
    {ref : RequestRef} {request : Request} (hr : c.bundle.request? ref = some request)
    {auths : List String}
    (ha : ∀ auth ∈ auths, auth ∈ request.references) (rest : ScopeStack)
    {result result' : AuthResult}
    (hresult : result.Alike (c.Carries secret request.references) result') :
    Step.Alike (c.bundle.MadeOf secret) t (AuthResult.Alike (c.Carries secret request.references))
      (c.resolveAll nested (e :: rest) auths result)
      (c.resolveAll nested (e' :: rest) auths result') := by
  induction auths generalizing result result' with
  | nil => exact .pure hresult
  | cons auth others ih =>
    obtain ⟨hfirst, hothers⟩ := List.forall_mem_cons.mp ha
    refine .bind (resolve_alike hc hn hr hfirst rest) fun credential credential' h => ?_
    exact ih hothers (NameMap.Alike.insert hresult h)

/-- With the event that ends the stage when one of them fails. -/
theorem credentials_alike (hc : Compared c secret ps t e e') (hn : nested.Alike c secret t e e')
    {ref : RequestRef} {request : Request} (hr : c.bundle.request? ref = some request)
    (rest : ScopeStack) :
    Step.Alike (c.bundle.MadeOf secret) t (AuthResult.Alike (c.Carries secret request.references))
      (c.credentials nested request (e :: rest)) (c.credentials nested request (e' :: rest)) := by
  unfold Setup.credentials
  cases hx : request.isExternal with
  | true => exact .pure NameMap.Alike.empty
  | false =>
    have hauth : request.references = request.auth := by
      unfold Request.references
      rw [hx]
      rfl
    exact .orFail (resolveAll_alike hc hn hr (fun auth ha => hauth ▸ ha) rest .empty) _

/-- The answers are written in advance, so both requests get the same one. -/
theorem exchange_alike {carrier : String → Prop} {hidden : CredentialKey → Prop}
    (ht : t.Scripted) {http http' : HttpRequest} (h : http.Alike carrier http')
    (operation : Option String) :
    Step.Alike hidden t Eq (exchange http operation) (exchange http' operation) := by
  unfold exchange
  refine .bind (.report (.requestPrepared h.method_eq h.url_eq operation)) fun _ _ _ => ?_
  refine .bind (.send ht http http') fun v v' hv => ?_
  cases hv
  cases v with
  | error error => exact .fail (.refl _)
  | ok reply => exact .bind (.report (.refl _)) fun _ _ _ => .pure rfl

/-- Rules that read no such header set the same variables. -/
theorem assignVariables_alike {carrier : String → Prop} {hidden : CredentialKey → Prop}
    {rules : Responses} (hr : rules.Spare carrier) {http http' : HttpRequest}
    (h : http.Alike carrier http') (id : String) (reply : Reply) :
    Step.Alike hidden t Eq (assignVariables id rules http reply)
      (assignVariables id rules http' reply) := by
  unfold assignVariables
  rw [Responses.extract_congr h hr]
  cases rules.extract id http' reply with
  | error error => exact .fail (.refl _)
  | ok scope => exact .bind (.report (.refl _)) fun _ _ _ => .pure rfl

/-- Behind the credentials a stage does alike if its rules spare the headers that carry
them. -/
theorem deliver_alike {carrier : String → Prop} {hidden : CredentialKey → Prop}
    (ht : t.Scripted) (he : e.Apart secret e') (playbook : String) (index : Nat) {s : Stage}
    {request : Request} (hs : ∀ l ∈ scopeLookUps stageScopeId s.vars, ¬ secret l.name)
    (hr : ∀ l ∈ request.lookUps, ¬ secret l.name) (hown : request.responses.Spare carrier)
    (hstage : s.responses.Spare carrier) (rest : ScopeStack) {credentials credentials' : AuthResult}
    (hc : credentials.Alike carrier credentials') :
    Step.Alike hidden t Eq (c.deliver playbook index s (e :: rest) request credentials)
      (c.deliver playbook index s (e' :: rest) request credentials') := by
  unfold Setup.deliver
  -- without look-ups of the secret the payloads are equal; only the credentials differ
  obtain ⟨htemplate, hmissing⟩ := Stage.payload_congr he rest hs hr
  refine .bind (.report (.payloadSubstituted _ _ _ _ hmissing)) fun _ _ _ => ?_
  refine .unless_missing (e := fun missing =>
    .prepareFailed (.variablesMissing (missingNamesText missing))) hmissing ?_
  rw [htemplate]
  refine .bind (.ofWarned (prepare_alike c request _ hc)) fun built built' hb => ?_
  cases hb with
  | error error => exact .fail (.refl _)
  | ok h =>
    -- a scripted transport gives the same reply to both
    refine .bind (exchange_alike ht h request.operationId) fun reply reply' hreply => ?_
    cases hreply
    cases s.unexpected? request reply with
    | some error => exact .fail (.refl _)
    | none =>
      refine .bind (assignVariables_alike hown h _ reply) fun first first' hfirst => ?_
      cases hfirst
      refine .bind (assignVariables_alike hstage h _ reply) fun second second' hsecond => ?_
      cases hsecond
      exact .pure rfl

/-- One stage: its credentials, then its request. -/
theorem stage_alike (hc : Compared c secret ps t e e')
    (hn : nested.Alike c secret t e e') (playbook : String) (index : Nat) {s : Stage}
    (hs : c.SparesStage secret s) (rest : ScopeStack) :
    Step.Alike (c.bundle.MadeOf secret) t Eq (c.stage nested playbook index s (e :: rest))
      (c.stage nested playbook index s (e' :: rest)) := by
  cases hr : c.stageRequest index s with
  | error error =>
    unfold Setup.stage
    rw [hr]
    exact .fail (.refl _)
  | ok found =>
    obtain ⟨ref, request⟩ := found
    obtain ⟨href, hrequest⟩ := stageRequest_eq_ok c hr
    rw [stage_eq_deliver c nested playbook index s _ hr,
      stage_eq_deliver c nested playbook index s _ hr]
    have hspares := hc.confines.requests ref request hrequest
    refine .bind (.report (.refl _)) fun _ _ _ => ?_
    refine .bind (credentials_alike hc hn hrequest rest) fun credentials credentials' h => ?_
    exact deliver_alike hc.scripted hc.apart playbook index hs.lookUps hspares.lookUps hspares.rules
      (hs.rules ref request href hrequest) rest h

/-- The stages of a playbook, one after another. -/
theorem stages_alike (hc : Compared c secret ps t e e')
    (hn : nested.Alike c secret t e e') (playbook : String) (index : Nat) (rest : ScopeStack)
    (assigned : ScopeStack) {stages : List Stage}
    (hs : ∀ s ∈ stages, c.SparesStage secret s) :
    Step.Alike (c.bundle.MadeOf secret) t Eq
      (c.stages nested playbook (e :: rest) index assigned stages)
      (c.stages nested playbook (e' :: rest) index assigned stages) := by
  induction stages generalizing index assigned with
  | nil => exact .pure rfl
  | cons s others ih =>
    obtain ⟨hfirst, hothers⟩ := List.forall_mem_cons.mp hs
    refine .bind (stage_alike hc hn playbook index hfirst (rest ++ assigned))
      fun scopes scopes' h => ?_
    cases h
    exact ih (index + 1) (assigned ++ scopes) hothers

/-- Playbooks at any depth do alike. -/
theorem playbookWithin_alike (hc : Compared c secret ps t e e') (levels depth : Nat) :
    (c.playbookWithin levels depth).Alike c secret t e e' := by
  -- each level fewer is one deeper, so the depth varies
  induction levels generalizing depth with
  | zero =>
    intro name stages rest hs
    unfold Setup.playbookWithin
    refine .bind (.report (.refl _)) fun _ _ _ => ?_
    exact .bind (.warnAll _) fun _ _ _ => .fail (.refl _)
  | succ levels ih =>
    intro name stages rest hs
    unfold Setup.playbookWithin
    refine .bind (.report (.refl _)) fun _ _ _ => ?_
    refine .bind (stages_alike hc (ih (depth + 1)) name 0 rest [] hs)
      fun assigned assigned' h => ?_
    cases h
    exact .bind (.report (.refl _)) fun _ _ _ => .pure rfl

/-- Playbooks in turn set the same scopes and show the same lines. -/
theorem PlaybooksRun.alike (hc : Compared c secret ps t e e')
    {extra assigned v v' : ScopeStack} {qs : List Playbook}
    (hq : ∀ p ∈ qs, ∀ s ∈ p.stages, c.SparesStage secret s) {m m' n n' : Moment}
    {x y : List Event} (hm : m.Alike (c.bundle.MadeOf secret) n)
    (h : PlaybooksRun c t (e :: extra) assigned qs m v x m')
    (h' : PlaybooksRun c t (e' :: extra) assigned qs n v' y n') :
    v = v' ∧ SameLines x y ∧ m'.Alike (c.bundle.MadeOf secret) n' := by
  have playbook (p : Playbook) (hp : ∀ s ∈ p.stages, c.SparesStage secret s)
      (assigned : ScopeStack) {m n : Moment} (hm : m.Alike (c.bundle.MadeOf secret) n) :
      ((c.playbookAt 0 p.name p.stages (e :: extra ++ assigned)).outcome t m).Alike
        (c.bundle.MadeOf secret) Eq
        ((c.playbookAt 0 p.name p.stages (e' :: extra ++ assigned)).outcome t n) :=
    playbookWithin_alike hc maxDepth 0 p.name p.stages (extra ++ assigned) hp m n hm
  induction h generalizing n y v' with
  | done =>
    cases h' with
    | done => exact ⟨rfl, .nil, hm⟩
  | passedOver hp hr ih => exact ih (List.forall_mem_cons.mp hq).2 hm (h'.of_passedOver hp)
  | @halted assigned p rest m m' x hp hn =>
    have halike := playbook p (List.forall_mem_cons.mp hq).1 assigned hm
    rw [hn] at halike
    -- the playbook fails in the other environment too
    generalize ho : (c.playbookAt 0 p.name p.stages (e' :: extra ++ assigned)).outcome t n = o
      at halike
    cases halike with
    | none hx hm =>
      obtain ⟨rfl, rfl, rfl⟩ := h'.of_halted hp ho
      exact ⟨rfl, hx, hm⟩
  | @next assigned scopes v p rest m m' m'' x x' hp hn hr ih =>
    obtain ⟨hfirst, hothers⟩ := List.forall_mem_cons.mp hq
    have halike := playbook p hfirst assigned hm
    rw [hn] at halike
    generalize ho : (c.playbookAt 0 p.name p.stages (e' :: extra ++ assigned)).outcome t n = o
      at halike
    cases halike with
    | some hv hx hm =>
      subst hv
      obtain ⟨after, rfl, hr'⟩ := h'.of_next hp ho
      obtain ⟨hvalue, hrest, hafter⟩ := ih hothers hm hr'
      exact ⟨hvalue, hx.append hrest, hafter⟩

end Runs

/-- Two runs that cannot be told apart by what they show and set. -/
structure Ran.Indistinct (ran ran' : Ran ScopeStack) : Prop where
  lines : traceLines ran.trace = traceLines ran'.trace
  value : ran.value = ran'.value
  sent : ran.sent.length = ran'.sent.length

/-- **THE LINES OF A RUN DO NOT TELL A CONFINED SECRET**: with two values of it, a run
shows the same lines, sets the same variables and sends as many requests. -/
theorem indistinct_runAll (c : Setup) (t : Transport) (runtimeName : String)
    (values values' : RuntimeValues) (extra : ScopeStack) (ps : List Playbook)
    (ht : t.Scripted) (hv : values.DifferAt runtimeName values')
    (hc : c.Confines (c.bundle.Imports runtimeName) ps)
    (hq : c.HidesFromUrls (c.bundle.Imports runtimeName)) :
    ((c.runAll values extra ps).run t []).Indistinct ((c.runAll values' extra ps).run t []) := by
  obtain ⟨m, h, hsent⟩ := playbooksRun_runAll c t values extra ps
  obtain ⟨m', h', hsent'⟩ := playbooksRun_runAll c t values' extra ps
  have he := c.bundle.importEnvironment_apart hv
  obtain ⟨hvalue, hlines, hafter⟩ := PlaybooksRun.alike ⟨hc, hq, ht, he⟩ hc.playbooks (.refl _) h h'
  refine ⟨hlines.traceLines_eq, hvalue, ?_⟩
  rw [hsent, hsent']
  exact hafter.sent

/-! ## §5. A key in a header and a key in the query. -/

/-- An operation that carries a runtime value as an API key, in the place given. -/
def keySetup (location : KeyLocation) : Setup :=
  let request : Request := ⟨some "list", .empty, ["key"], .ofStatus 200, .empty,
    ⟨none, none, ⟨.empty, .empty, .empty, .empty⟩, none⟩⟩
  let key : Credential := ⟨some .apiKey, some location, some "key", "static",
    .ofList [("static", ⟨"{{secret}}", none⟩)]⟩
  ⟨⟨.ofList [("list", ⟨request, [], [], .empty⟩)], .empty, [], [], [.ofList [("key", key)]],
      .ofList [("default", ⟨.ofList [("secret", ⟨"SECRET", true, none⟩)]⟩)], none⟩,
    ⟨.ofMembers [("paths", .ofMembers [("/items", .ofMembers
      [("get", .ofMembers [("operationId", .string "list")])])])]⟩, "coap://api.test"⟩

/-- A playbook with that operation as its only stage. -/
def keyPlaybook : Playbook := ⟨"p", [.ofRef ⟨.operation, "list"⟩]⟩

/-- A runtime with that secret. -/
def secretValue (value : String) : RuntimeValues := ⟨.empty, .ofList [("SECRET", .string value)]⟩

theorem secretValue_differAt (value value' : String) :
    (secretValue value).DifferAt "SECRET" (secretValue value') := by
  refine ⟨rfl, fun name hn => ?_⟩
  have hnone (value : String) : (secretValue value).value? name = none := by
    show (if name = "SECRET" then some (Json.string value) else none).or none = none
    rw [if_neg hn]
    rfl
  rw [hnone, hnone]

/-- The key of the setup at hand is nowhere but in its credential. -/
theorem keySetup_confines (location : KeyLocation) (secret : String → Prop) :
    (keySetup location).Confines secret [keyPlaybook] := by
  have hresponses (carrier : String → Prop) : Responses.Spare carrier .empty :=
    List.forall_mem_nil _
  refine ⟨?_, ?_, ?_⟩
  · intro ref request hr
    obtain ⟨kind, id⟩ := ref
    cases kind with
    | request => cases hr
    | operation =>
      obtain ⟨o, ho, rfl⟩ := Option.map_eq_some_iff.mp hr
      cases List.mem_singleton.mp (NameMap.mem_of_get? ho)
      exact ⟨List.forall_mem_nil _, hresponses _⟩
  · intro p hp s hs
    cases List.mem_singleton.mp hp
    cases List.mem_singleton.mp hs
    exact ⟨List.forall_mem_nil _, fun _ _ _ _ => hresponses _⟩
  · -- the key is not acquired by stages
    rintro ⟨name, methodName⟩ method stages hm hstages
    obtain ⟨credential, hc, hm⟩ := Option.bind_eq_some_iff.mp hm
    obtain ⟨group, hgroup, hc⟩ := List.exists_of_findSome?_eq_some hc
    cases List.mem_singleton.mp hgroup
    cases List.mem_singleton.mp (NameMap.mem_of_get? hc)
    cases List.mem_singleton.mp (NameMap.mem_of_get? hm)
    cases hstages

/-- In a header it is not in the URL. -/
theorem keySetup_hidesFromUrls (secret : String → Prop) :
    (keySetup .header).HidesFromUrls secret := by
  rintro ref request - auth - ⟨name, methodName⟩ credential scheme - - hc hs
  obtain ⟨group, hgroup, hc⟩ := List.exists_of_findSome?_eq_some hc
  cases List.mem_singleton.mp hgroup
  cases List.mem_singleton.mp (NameMap.mem_of_get? hc)
  cases hs
  rintro ⟨⟩

/-- A server that says the same to every request. -/
def fixedAnswer : Transport := .ofAnswers [.ok (.response ⟨200, .empty, "{}"⟩)]

/-- With the key in a header nothing tells the secret. -/
theorem indistinct_runAll_keyInHeader :
    fixedAnswer.Scripted ∧ (secretValue "a").DifferAt "SECRET" (secretValue "b") ∧
      (keySetup .header).Confines ((keySetup .header).bundle.Imports "SECRET") [keyPlaybook] ∧
      (keySetup .header).HidesFromUrls ((keySetup .header).bundle.Imports "SECRET") ∧
      (((keySetup .header).runAll (secretValue "a") [] [keyPlaybook]).run fixedAnswer []).Indistinct
        (((keySetup .header).runAll (secretValue "b") [] [keyPlaybook]).run fixedAnswer []) := by
  have hscripted : fixedAnswer.Scripted := Transport.scripted_ofAnswers _
  have hvalues := secretValue_differAt "a" "b"
  have hconfines := keySetup_confines .header ((keySetup .header).bundle.Imports "SECRET")
  have hhides := keySetup_hidesFromUrls ((keySetup .header).bundle.Imports "SECRET")
  exact ⟨hscripted, hvalues, hconfines, hhides,
    indistinct_runAll (keySetup .header) fixedAnswer "SECRET" (secretValue "a") (secretValue "b") []
      [keyPlaybook] hscripted hvalues hconfines hhides⟩

/-- **A KEY IN THE QUERY IS TOLD**: the line of the request shows it, so a secret that is
confined to credentials may still be read off the lines. -/
theorem not_indistinct_keyInQuery :
    ¬ ∀ (c : Setup) (t : Transport) (runtimeName : String) (values values' : RuntimeValues)
      (extra : ScopeStack) (ps : List Playbook), t.Scripted →
      values.DifferAt runtimeName values' → c.Confines (c.bundle.Imports runtimeName) ps →
      traceLines ((c.runAll values extra ps).run t []).trace
        = traceLines ((c.runAll values' extra ps).run t []).trace := by
  intro h
  have hsame := h (keySetup .query) .mock "SECRET" (secretValue "a") (secretValue "b") []
    [keyPlaybook] Transport.scripted_mock (secretValue_differAt "a" "b")
    (keySetup_confines .query _)
  have hdiffer : traceLines
      (((keySetup .query).runAll (secretValue "a") [] [keyPlaybook]).run .mock []).trace
      ≠ traceLines
        (((keySetup .query).runAll (secretValue "b") [] [keyPlaybook]).run .mock []).trace := by
    decide +kernel
  exact hdiffer hsame

end ApiPlaybook
