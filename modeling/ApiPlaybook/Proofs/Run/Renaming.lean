/-
  ApiPlaybook.Proofs.Run.Renaming
  ───────────────────────────────
  **NAMES OF SCOPES AND PLAYBOOKS DO NOT MATTER.**

  A scope is called after the playbook and the stage that set it.  That name is
  only told: with each value that was found, it is reported where the value came
  from.  What is looked up depends on the variables of the scopes and on their
  order alone (`substitute_same`).  So two runs in scopes with the same variables
  (`SameValues`), under whatever names,

      report events of the same kinds, send the same requests, keep the same
      credentials, and succeed alike (`Outcome.Same`),

  stage by stage (`stages_same`) and at any depth (`playbookWithin_same`).
-/
import ApiPlaybook.Proofs.Run.Rules

namespace ApiPlaybook

/-! ## §1. Values from scopes of other names. -/

/-- Scopes with the same variables, in the same order, whatever they are called. -/
def SameValues (stack other : ScopeStack) : Prop :=
  stack.map (·.vars) = List.map (·.vars) other

namespace SameValues

variable {stack other inner inner' : ScopeStack}

theorem refl (stack : ScopeStack) : SameValues stack stack := Eq.refl _

/-- Scopes behind others of the same values, with the same values again. -/
theorem append (h : SameValues stack other) (hi : SameValues inner inner') :
    SameValues (stack ++ inner) (other ++ inner') := by
  unfold SameValues at *
  rw [List.map_append, List.map_append, h, hi]

theorem single {s s' : Scope} (h : s.vars = s'.vars) : SameValues [s] [s'] :=
  congrArg (fun vars => [vars]) h

/-- A name has the value that the innermost scope with that variable gives it. -/
theorem value_resolve? (stack : ScopeStack) (name : String) :
    (stack.resolve? name).map (·.1) = (stack.map (·.vars)).reverse.findSome? (·.get? name) := by
  unfold ScopeStack.resolve?
  rw [List.map_findSome?, ← List.map_reverse, List.findSome?_map]
  congr 1
  funext scope
  simp only [Function.comp_def, Option.map_map, Option.map_id']

/-- The values that are found depend on the variables only. -/
theorem resolve?_eq (h : SameValues stack other) (name : String) :
    (stack.resolve? name).map (·.1) = (ScopeStack.resolve? other name).map (·.1) := by
  rw [value_resolve?, value_resolve?, h]

end SameValues

/-- The same value, and the same names without one; what was found may have come from
scopes of other names. -/
structure Replacement.Same {α : Type} (r r' : Replacement α) : Prop where
  value : r.value = r'.value
  missing : r.missing = r'.missing

namespace Replacement.Same

variable {α β : Type} {r r' : Replacement α}

theorem refl (r : Replacement α) : r.Same r := ⟨rfl, rfl⟩

/-- What follows may use the value, which is the same, and the names without one add up. -/
theorem bind {f g : α → Replacement β} (h : r.Same r') (hf : ∀ v, (f v).Same (g v)) :
    (r >>= f).Same (r' >>= g) := by
  constructor
  · show (f r.value).value = (g r'.value).value
    rw [h.value]
    exact (hf _).value
  · show r.missing ++ (f r.value).missing = r'.missing ++ (g r'.value).missing
    rw [h.missing, h.value, (hf _).missing]

/-- A function of the value keeps what is found and what is missing. -/
theorem map (h : r.Same r') (f : α → β) :
    (r >>= fun v => pure (f v)).Same (r' >>= fun v => pure (f v)) :=
  h.bind fun v => .refl (pure (f v))

end Replacement.Same

section Substitution

variable {stack other : ScopeStack}

/-- A name has the same value in both stacks, or is missing from both. -/
theorem lookUp_same (h : SameValues stack other) (location name : String) :
    (lookUp stack location name).Same (lookUp other location name) := by
  have hvalue := h.resolve?_eq name
  unfold lookUp
  -- a name that only one of the stacks knows would have two values
  cases hs : stack.resolve? name with
  | none =>
    cases ho : ScopeStack.resolve? other name with
    | none => exact .refl _
    | some found =>
      rw [hs, ho] at hvalue
      cases hvalue
  | some found =>
    cases ho : ScopeStack.resolve? other name with
    | none =>
      rw [hs, ho] at hvalue
      cases hvalue
    | some found' =>
      rw [hs, ho] at hvalue
      exact ⟨hvalue, rfl⟩

/-- Piece by piece a text becomes the same. -/
theorem substitutePieces_same (h : SameValues stack other) (location : String) (ps : List Piece) :
    (substitutePieces stack location ps).Same (substitutePieces other location ps) := by
  induction ps with
  | nil => exact .refl _
  | cons p rest ih =>
    cases p with
    | char ch => exact ih.map _
    | reference r => exact (lookUp_same h location r.name).bind fun _ => ih.map _

/-- A text becomes the same, whether it is one reference or holds some. -/
theorem substituteString_same (h : SameValues stack other) (location s : String) :
    (substituteString stack location s).Same (substituteString other location s) := by
  unfold substituteString
  cases wholeReference? s with
  | some name => exact (lookUp_same h location name).map _
  | none => exact ((substitutePieces_same h location _).map String.ofList).map Json.string

mutual

/-- **FILLING IN IS BLIND TO NAMES OF SCOPES**: a value becomes the same. -/
theorem substitute_same (h : SameValues stack other) (location : String) (j : Json) :
    (substitute stack location j).Same (substitute other location j) := by
  cases j with
  | string s => exact substituteString_same h location s
  | array items => exact (substituteItems_same h location 0 items).map _
  | object members => exact (substituteMembers_same h location members).map _
  | null => exact .refl _
  | bool b => exact .refl _
  | number n => exact .refl _

theorem substituteItems_same (h : SameValues stack other) (location : String) (i : Nat)
    (items : List Json) :
    (substituteItems stack location i items).Same (substituteItems other location i items) := by
  cases items with
  | nil => exact .refl _
  | cons item rest =>
    refine (substitute_same h _ item).bind fun _ => ?_
    exact (substituteItems_same h location (i + 1) rest).map _

theorem substituteMembers_same (h : SameValues stack other) (location : String)
    (members : List (String × Json)) :
    (substituteMembers stack location members).Same
      (substituteMembers other location members) := by
  cases members with
  | nil => exact .refl _
  | cons head rest =>
    refine (substitute_same h _ head.2).bind fun _ => ?_
    exact (substituteMembers_same h location rest).map _

end

/-- A map becomes the same, member by member. -/
theorem substituteMap_same (h : SameValues stack other) (location : String) (m : NameMap Json) :
    (substituteMap stack location m).Same (substituteMap other location m) := by
  have hmembers := substituteMembers_same h location m.entries
  exact ⟨NameMap.ext_entries hmembers.value, hmembers.missing⟩

/-- So do the values of a scope that is set for an operation or a scenario. -/
theorem substituteScope_same (h : SameValues stack other) (id : String) (vars : NameMap Json) :
    (substituteScope id vars stack).Same (substituteScope id vars other) :=
  (substituteMap_same h _ vars).map _

/-- A text that may be absent becomes the same. -/
theorem substituteOptional_same (h : SameValues stack other) (location : String)
    (s : Option String) :
    (substituteOptional stack location s).Same (substituteOptional other location s) := by
  cases s with
  | none => exact .refl _
  | some s => exact (substituteString_same h location s).map _

/-- A body becomes the same, with its media type as it was. -/
theorem substituteBody_same (h : SameValues stack other) (b : Option Body) :
    (substituteBody stack b).Same (substituteBody other b) := by
  cases b with
  | none => exact .refl _
  | some b => exact (substitute_same h "/body" b.value).map _

/-- All parts of a template become the same. -/
theorem substituteTemplate_same (h : SameValues stack other) (t : Template) :
    (substituteTemplate t stack).Same (substituteTemplate t other) := by
  unfold substituteTemplate
  refine (substituteOptional_same h _ t.url).bind fun _ => ?_
  refine (substituteOptional_same h _ t.method).bind fun _ => ?_
  refine (substituteMap_same h _ t.parameters.query).bind fun _ => ?_
  refine (substituteMap_same h _ t.parameters.header).bind fun _ => ?_
  refine (substituteMap_same h _ t.parameters.path).bind fun _ => ?_
  refine (substituteMap_same h _ t.parameters.cookie).bind fun _ => ?_
  exact (substituteBody_same h t.body).map _

/-- The template of a credential becomes the same. -/
theorem substituteCredential_same (h : SameValues stack other) (template : String) :
    (substituteCredential template stack).Same (substituteCredential template other) :=
  (substituteString_same h "/credential" template).map _

/-- A stage puts the same values in place. -/
theorem Stage.payload_same (h : SameValues stack other) (s : Stage) (request : Request) :
    (s.payload request stack).template = (s.payload request other).template ∧
      (s.payload request stack).missing = (s.payload request other).missing := by
  have hstage := substituteScope_same h stageScopeId s.vars
  have hstack := h.append (.single (congrArg Scope.vars hstage.value))
  have hown := substituteScope_same hstack requestScopeId request.vars
  have hfilled := substituteTemplate_same
    (hstack.append (.single (congrArg Scope.vars hown.value))) request.template
  unfold Stage.payload
  exact ⟨hfilled.value, by simp only [hstage.missing, hown.missing, hfilled.missing]⟩

end Substitution

/-- What a rule finds does not depend on the name of the scope it is put in. -/
theorem extractInto_same (http : HttpRequest) (response : HttpResponse)
    (rules : List (String × ExtractionRule)) {s s' : Scope} (h : s.vars = s'.vars) :
    Except.map (·.vars) (extractInto http response s rules)
      = Except.map (·.vars) (extractInto http response s' rules) := by
  induction rules generalizing s s' with
  | nil => exact congrArg Except.ok h
  | cons head rest ih =>
    obtain ⟨name, rule⟩ := head
    unfold extractInto
    cases rule.extract http response with
    | error fault => rfl
    | ok value => exact ih (congrArg (·.insert name value) h)

/-- Rules assign the same variables under either name of their scope, or fail alike. -/
theorem Responses.extract_same (rules : Responses) (id id' : String) (http : HttpRequest)
    (reply : Reply) :
    Except.map (·.vars) (rules.extract id http reply)
      = Except.map (·.vars) (rules.extract id' http reply) := by
  cases reply with
  | mock =>
    have assigned (names : List String) {s s' : Scope} (h : s.vars = s'.vars) :
        (names.foldl (fun s name => s.assign name mockValue) s).vars
          = (names.foldl (fun s name => s.assign name mockValue) s').vars := by
      induction names generalizing s s' with
      | nil => exact h
      | cons name rest ih => exact ih (congrArg (·.insert name mockValue) h)
    exact congrArg Except.ok (assigned rules.allVariables rfl)
  | response r =>
    simp only [Responses.extract]
    cases rules.select? r.status with
    | none => rfl
    | some found => exact extractInto_same http r found.assignments.entries rfl

/-! ## §2. Steps that do the same. -/

variable {α β : Type} {t : Transport} {R : α → α → Prop} {S : β → β → Prop}

/-- Both succeed, with values that are related, or both fail, after events of the same
kinds and at the same moment. -/
inductive Outcome.Same (R : α → α → Prop) : Outcome α → Outcome α → Prop where
  | some {v v' : α} {x y : List Event} {m : Moment} (hv : R v v')
      (hx : x.map Event.tag = y.map Event.tag) : Same R ⟨.some v, x, m⟩ ⟨.some v', y, m⟩
  | none {x y : List Event} {m : Moment} (hx : x.map Event.tag = y.map Event.tag) :
      Same R ⟨.none, x, m⟩ ⟨.none, y, m⟩

/-- Events of the same kinds in front of outcomes that are alike. -/
theorem Outcome.Same.reporting {o o' : Outcome α} (h : o.Same R o') {x y : List Event}
    (hxy : x.map Event.tag = y.map Event.tag) : (o.reporting x).Same R (o'.reporting y) := by
  cases h with
  | some hv hx => exact .some hv (by rw [List.map_append, List.map_append, hxy, hx])
  | none hx => exact .none (by rw [List.map_append, List.map_append, hxy, hx])

/-- Two steps that do the same from any moment. -/
def Step.Same (t : Transport) (R : α → α → Prop) (x y : Step α) : Prop :=
  ∀ m, (x.outcome t m).Same R (y.outcome t m)

namespace Step.Same

/-- Values that are related are alike as steps. -/
theorem pure {v v' : α} (h : R v v') : Step.Same t R (Pure.pure v) (Pure.pure v') :=
  fun _ => .some h rfl

theorem refl (x : Step α) : Step.Same t Eq x x := by
  intro m
  rcases x.outcome t m with ⟨_ | v, trace, m'⟩
  · exact .none rfl
  · exact .some rfl rfl

/-- What follows has to be the same only for values that the first steps may come to. -/
theorem bind {x y : Step α} {f g : α → Step β} (h : Step.Same t R x y)
    (hf : ∀ v v', R v v' → Step.Same t S (f v) (g v')) : Step.Same t S (x >>= f) (y >>= g) := by
  intro m
  have hx := h m
  rw [Step.outcome_bind, Step.outcome_bind]
  generalize x.outcome t m = o at hx ⊢
  generalize y.outcome t m = o' at hx ⊢
  cases hx with
  | some hv hx => exact (hf _ _ hv _).reporting hx
  | none hx => exact .none hx

/-- What is the same in both is done first. -/
theorem after (x : Step α) {f g : α → Step β} (hf : ∀ v, Step.Same t S (f v) (g v)) :
    Step.Same t S (x >>= f) (x >>= g) := by
  refine .bind (.refl x) fun v v' hv => ?_
  cases hv
  exact hf v

theorem report {e e' : Event} (h : e.tag = e'.tag) :
    Step.Same t (fun _ _ => True) (Step.report e) (Step.report e') :=
  fun _ => .some trivial (congrArg (fun tag => [tag]) h)

theorem fail {e e' : Event} (h : e.tag = e'.tag) :
    Step.Same t R (Step.fail e) (Step.fail e') :=
  fun _ => .none (congrArg (fun tag => [tag]) h)

/-- Both fail for the same reason, or both go on. -/
theorem failIf (b : Bool) (e : Event) {f g : Unit → Step β} (hf : Step.Same t S (f ()) (g ())) :
    Step.Same t S (if b = true then Step.fail e >>= f else f ())
      (if b = true then Step.fail e >>= g else g ()) := by
  cases b with
  | true => exact .after (Step.fail e) fun _ => hf
  | false => exact hf

/-- A failure that is told by one more event is so on both sides. -/
theorem orFail {x y : Step α} (h : Step.Same t R x y) (e : Event) :
    Step.Same t R (x.orFail e) (y.orFail e) := by
  intro m
  have hx := h m
  rw [Step.outcome_orFail, Step.outcome_orFail]
  generalize x.outcome t m = o at hx ⊢
  generalize y.outcome t m = o' at hx ⊢
  cases hx with
  | some hv hx => exact .some hv hx
  | none hx => exact .none (by rw [List.map_append, List.map_append, hx])

end Step.Same

/-! ## §3. Runs in scopes of other names. -/

section Runs

variable {c : Setup} {nested nested' : Runner} {stack other : ScopeStack}

/-- The playbooks that two runners run do the same in scopes with the same variables:
they are left with the same variables again, whatever their names. -/
def Runner.Same (t : Transport) (nested nested' : Runner) : Prop :=
  ∀ name name' stages stack other, SameValues stack other →
    Step.Same t (fun v v' => SameValues (stack ++ v) (other ++ v')) (nested name stages stack)
      (nested' name' stages other)

/-- The playbook of a credential sets the same values. -/
theorem acquisitionScopes_same (hn : nested.Same t nested') (h : SameValues stack other)
    (auth : String) (method : CredentialMethod) :
    Step.Same t SameValues (Setup.acquisitionScopes nested auth method stack)
      (Setup.acquisitionScopes nested' auth method other) := by
  unfold Setup.acquisitionScopes
  cases method.stages with
  | none => exact .pure h
  | some stages =>
    exact .bind (.orFail (hn auth auth stages stack other h) _) fun v v' hv => .pure hv

theorem acquire_same (hn : nested.Same t nested') (h : SameValues stack other) (auth : String)
    (key : CredentialKey) (method : CredentialMethod) :
    Step.Same t Eq (Setup.acquire nested auth key method stack)
      (Setup.acquire nested' auth key method other) := by
  unfold Setup.acquire
  refine .bind (acquisitionScopes_same hn h auth method) fun scopes scopes' hs => ?_
  have hfilled := substituteCredential_same hs method.template
  refine .bind (.report rfl) fun _ _ _ => ?_
  unfold Replacement.isComplete
  rw [hfilled.value, hfilled.missing]
  exact .refl _

/-- A credential is kept on both sides or acquired on both. -/
theorem credentialValue_same (hn : nested.Same t nested') (h : SameValues stack other)
    (auth : String) (key : CredentialKey) (method : CredentialMethod) :
    Step.Same t Eq (Setup.credentialValue nested auth key method stack)
      (Setup.credentialValue nested' auth key method other) := by
  unfold Setup.credentialValue
  refine .after _ fun kept => ?_
  cases kept with
  | some value => exact .refl _
  | none => exact acquire_same hn h auth key method

/-- A credential is resolved to the same value. -/
theorem resolve_same (hn : nested.Same t nested') (h : SameValues stack other) (auth : String) :
    Step.Same t Eq (c.resolve nested stack auth) (c.resolve nested' other auth) := by
  unfold Setup.resolve
  refine .after _ fun _ => ?_
  cases c.method auth with
  | error e => exact .refl _
  | ok found =>
    obtain ⟨key, credential, method⟩ := found
    refine .bind (credentialValue_same hn h auth key method) fun v v' hv => ?_
    cases hv
    exact .refl _

theorem resolveAll_same (hn : nested.Same t nested') (h : SameValues stack other)
    (auths : List String) (result : AuthResult) :
    Step.Same t Eq (c.resolveAll nested stack auths result)
      (c.resolveAll nested' other auths result) := by
  induction auths generalizing result with
  | nil => exact .refl _
  | cons auth rest ih =>
    refine .bind (resolve_same hn h auth) fun credential credential' hc => ?_
    cases hc
    exact ih (result.insert auth credential)

/-- With the event that ends the stage when one of them fails. -/
theorem credentials_same (hn : nested.Same t nested') (h : SameValues stack other)
    (request : Request) :
    Step.Same t Eq (c.credentials nested request stack)
      (c.credentials nested' request other) := by
  unfold Setup.credentials
  split
  · exact .refl _
  · exact .orFail (resolveAll_same hn h request.auth .empty) _

/-- Rules assign the same variables, under the name that their stage has. -/
theorem assignVariables_same (id id' : String) (rules : Responses) (http : HttpRequest)
    (reply : Reply) :
    Step.Same t (fun s s' => s.vars = s'.vars) (assignVariables id rules http reply)
      (assignVariables id' rules http reply) := by
  have hsame := rules.extract_same id id' http reply
  unfold assignVariables
  -- the rules cannot fail under one name of the scope only
  cases he : rules.extract id http reply with
  | error e =>
    cases he' : rules.extract id' http reply with
    | error e' => exact .fail rfl
    | ok scope' =>
      rw [he, he'] at hsame
      cases hsame
  | ok scope =>
    cases he' : rules.extract id' http reply with
    | error e' =>
      rw [he, he'] at hsame
      cases hsame
    | ok scope' =>
      rw [he, he'] at hsame
      exact .bind (.report rfl) fun _ _ _ => .pure (Except.ok.inj hsame)

/-- Payloads are reported by events of one kind, whatever was found. -/
theorem Payload.tag_report (p p' : Payload) : p.report.tag = p'.report.tag := rfl

/-- **ONE REQUEST** is sent alike, and its rules set the same values. -/
theorem deliver_same (h : SameValues stack other) (playbook playbook' : String)
    (index index' : Nat) (s : Stage) (request : Request) (credentials : AuthResult) :
    Step.Same t SameValues (c.deliver playbook index s stack request credentials)
      (c.deliver playbook' index' s other request credentials) := by
  obtain ⟨htemplate, hmissing⟩ := Stage.payload_same h s request
  unfold Setup.deliver
  refine .bind (.report (Payload.tag_report _ _)) fun _ _ _ => ?_
  -- from here on both sides have one payload, so one request is sent
  rw [htemplate, hmissing]
  refine .failIf _ _ (.after _ fun built => ?_)
  cases built with
  | error e => exact .fail rfl
  | ok http =>
    refine .after (exchange http request.operationId) fun reply => ?_
    cases s.unexpected? request reply with
    | some e => exact .fail rfl
    | none =>
      refine .bind (assignVariables_same _ _ request.responses http reply)
        fun first first' hfirst => ?_
      refine .bind (assignVariables_same _ _ s.responses http reply)
        fun second second' hsecond => ?_
      exact .pure (.append (.single hfirst) (.single hsecond))

/-- The place of a stage does not decide on its request, -/
theorem stageRequest_ok {index : Nat} {s : Stage} {found : RequestRef × Request}
    (h : c.stageRequest index s = .ok found) (index' : Nat) :
    c.stageRequest index' s = .ok found := by
  obtain ⟨ref, request⟩ := found
  obtain ⟨hs, hr⟩ := stageRequest_eq_ok c h
  simp only [Setup.stageRequest, hs, hr]

/-- nor on whether it has one. -/
theorem stageRequest_error {index : Nat} {s : Stage} {e : RunError}
    (h : c.stageRequest index s = .error e) (index' : Nat) :
    ∃ e', c.stageRequest index' s = .error e' := by
  cases hr : c.stageRequest index' s with
  | error e' => exact ⟨e', rfl⟩
  | ok found =>
    rw [stageRequest_ok hr index] at h
    cases h

/-- A stage does the same, whatever its playbook and its position. -/
theorem stage_same (hn : nested.Same t nested') (h : SameValues stack other)
    (playbook playbook' : String) (index index' : Nat) (s : Stage) :
    Step.Same t SameValues (c.stage nested playbook index s stack)
      (c.stage nested' playbook' index' s other) := by
  cases hr : c.stageRequest index s with
  | error e =>
    obtain ⟨e', hr'⟩ := stageRequest_error hr index'
    unfold Setup.stage
    rw [hr, hr']
    exact .fail rfl
  | ok found =>
    obtain ⟨ref, request⟩ := found
    have hr' := stageRequest_ok hr index'
    rw [stage_eq_deliver c nested playbook index s stack hr,
      stage_eq_deliver c nested' playbook' index' s other hr']
    refine .after _ fun _ => ?_
    refine .bind (credentials_same hn h request) fun credentials credentials' hc => ?_
    cases hc
    exact deliver_same h playbook playbook' index index' s request credentials

/-- The stages of a playbook, behind scopes with the same variables of which some may
have been set in one run by stages before, in the other by other playbooks. -/
theorem stages_same (c : Setup) (hn : nested.Same t nested') (playbook playbook' : String)
    (index index' : Nat) (stages : List Stage) {assigned assigned' : ScopeStack}
    (h : SameValues (stack ++ assigned) (other ++ assigned')) :
    Step.Same t (fun v v' => SameValues (stack ++ v) (other ++ v'))
      (c.stages nested playbook stack index assigned stages)
      (c.stages nested' playbook' other index' assigned' stages) := by
  induction stages generalizing index index' assigned assigned' with
  | nil => exact .pure h
  | cons s rest ih =>
    refine .bind (stage_same hn h playbook playbook' index index' s) fun scopes scopes' hs => ?_
    refine ih (index + 1) (index' + 1) ?_
    rw [← List.append_assoc, ← List.append_assoc]
    exact h.append hs

/-- By induction on the levels that are left, playbooks do the same. -/
theorem playbookWithin_same (c : Setup) (levels depth : Nat) :
    Runner.Same t (c.playbookWithin levels depth) (c.playbookWithin levels depth) := by
  -- each level fewer is one deeper, so the depth varies
  induction levels generalizing depth with
  | zero =>
    intro name name' stages stack other h m
    rw [outcome_playbookWithin_zero, outcome_playbookWithin_zero]
    exact .none rfl
  | succ levels ih =>
    intro name name' stages stack other h
    unfold Setup.playbookWithin
    refine .bind (.report rfl) fun _ _ _ => ?_
    refine .bind (stages_same c (ih (depth + 1)) name name' 0 0 stages ?_) fun v v' hv => ?_
    · rw [List.append_nil, List.append_nil]
      exact h
    · exact .bind (.report rfl) fun _ _ _ => .pure hv

end Runs

end ApiPlaybook
