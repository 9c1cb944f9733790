/-
  ApiPlaybook.Proofs.Bundle.RoundTrip
  ───────────────────────────────────
  **BUNDLES READ BACK.**

  A bundle is normal when its free values have their members in name order and
  its response codes are trimmed and in lower case (`Bundle.IsNormal`).  Each
  part of a normal bundle is recovered from its JSON form, if no variable that
  it imports declares a null as its default (`Bundle.IsNormal.recovers`).

  That condition is needed: a default that is null is written as a null, and
  where a default may be absent a null is read as none.  So normal bundles are
  told apart by what they allow as a default.
-/
import ApiPlaybook.Proofs.Bundle.Records

namespace ApiPlaybook

/-! ## §1. Words. -/

/-- A side is read back from its word. -/
theorem Side.recovers (s : Side) : Recovers (readChoice Side.words) (.string s.word) s := by
  refine .choice ?_
  cases s <;> rfl

theorem Location.recovers (l : Location) :
    Recovers (readChoice Location.words) (.string l.word) l := by
  refine .choice ?_
  cases l <;> rfl

theorem PathKind.recovers (k : PathKind) :
    Recovers (readChoice PathKind.words) (.string k.word) k := by
  refine .choice ?_
  cases k <;> rfl

theorem RefKind.recovers (k : RefKind) :
    Recovers (readChoice RefKind.words) (.string k.word) k := by
  refine .choice ?_
  cases k <;> rfl

theorem SchemeKind.recovers (k : SchemeKind) :
    Recovers (readChoice SchemeKind.words) (.string k.word) k := by
  refine .choice ?_
  cases k <;> rfl

theorem KeyLocation.recovers (l : KeyLocation) :
    Recovers (readChoice KeyLocation.words) (.string l.word) l := by
  refine .choice ?_
  cases l <;> rfl

/-! ## §2. Parts without free values. -/

/-- A text that may be absent. -/
theorem recovers_optionalText (o : Option String) :
    ∀ s, o = some s → Recovers readText (.string s) s ∧ Json.string s ≠ .null :=
  fun s _ => ⟨.text s, nofun⟩

/-- A rule of extraction has no free values, so it is always recovered. -/
theorem ExtractionRule.recovers (r : ExtractionRule) :
    Recovers ExtractionRule.decode r.toJson r := by
  refine .record (by simp) ?_
  simp only [List.cons_append, List.nil_append]
  exact .setting r.side.recovers (.setting r.location.recovers (.setting r.pathKind.recovers
    (.setting (.text r.path) (.optional rfl (recovers_optionalText r.pattern) .nil))))

/-- The rules for one kind of response, name by name. -/
theorem ResponseRules.recovers (r : ResponseRules) :
    Recovers ResponseRules.decode r.toJson r :=
  .record (by simp) (.setting (.map fun e _ => e.2.recovers) .nil)

/-- A reference to a request: its kind and its name. -/
theorem RequestRef.recovers (r : RequestRef) : Recovers RequestRef.decode r.toJson r :=
  .record (by simp) (.setting r.kind.recovers (.setting (.text r.id) .nil))

/-- The chosen environment, if there is one. -/
theorem RuntimeConfiguration.recovers (r : RuntimeConfiguration) :
    Recovers RuntimeConfiguration.decode r.toJson r :=
  .record (by simp) (.optional rfl (recovers_optionalText r.environment) .nil)

/-! ## §3. Requests and stages. -/

/-- Every value of the map has the property. -/
def NameMap.All {α : Type} (P : α → Prop) (m : NameMap α) : Prop := ∀ e ∈ m.entries, P e.2

instance {α : Type} (P : α → Prop) [DecidablePred P] (m : NameMap α) : Decidable (m.All P) :=
  inferInstanceAs (Decidable (∀ e ∈ m.entries, P e.2))

/-- The code is trimmed and in lower case. -/
def ResponseCode.IsNormal (c : ResponseCode) : Prop := normalCode c.text = c.text

/-- A code in normal form is left as it is when it is read again. -/
theorem ResponseCode.IsNormal.recovers {c : ResponseCode} (h : c.IsNormal) :
    Recovers ResponseCode.decode c.toJson c := by
  intro j hj
  rw [hj.of_string]
  show Except.ok (ResponseCode.mk (normalCode c.text)) = .ok c
  rw [show normalCode c.text = c.text from h]

structure Parameters.IsNormal (p : Parameters) : Prop where
  query : p.query.All Json.IsOrdered
  header : p.header.All Json.IsOrdered
  path : p.path.All Json.IsOrdered
  cookie : p.cookie.All Json.IsOrdered

/-- Values of variables or parameters. -/
theorem recovers_values {m : NameMap Json} (h : m.All Json.IsOrdered) :
    ∀ e ∈ m.entries, Recovers Source.free (id e.2) e.2 :=
  fun e he => .free (h e he)

/-- Parameters are maps of free values, which must be in name order. -/
theorem Parameters.IsNormal.recovers {p : Parameters} (h : p.IsNormal) :
    Recovers Parameters.decode p.toJson p := by
  refine .record (by simp) ?_
  simp only [List.append_assoc]
  exact .map rfl (recovers_values h.query) (.map rfl (recovers_values h.header)
    (.map rfl (recovers_values h.path) (.map rfl (recovers_values h.cookie) .nil)))

def Body.IsNormal (b : Body) : Prop := b.value.IsOrdered

theorem Body.IsNormal.recovers {b : Body} (h : b.IsNormal) : Recovers Body.decode b.toJson b :=
  .record (by simp) (.setting (.text b.mediaType) (.setting (.free h) .nil))

structure Template.IsNormal (t : Template) : Prop where
  parameters : t.parameters.IsNormal
  body : ∀ b ∈ t.body, b.IsNormal

/-- A template is recovered part by part. -/
theorem Template.IsNormal.recovers {t : Template} (h : t.IsNormal) :
    Recovers Template.decode t.toJson t := by
  refine .record (by simp) ?_
  simp only [List.append_assoc, List.cons_append, List.nil_append]
  have hbody : ∀ b, t.body = some b → Recovers Body.decode b.toJson b ∧ b.toJson ≠ .null :=
    fun b hb => ⟨(h.body b hb).recovers, nofun⟩
  exact .optional rfl (recovers_optionalText t.url) (.optional rfl (recovers_optionalText t.method)
    (.setting h.parameters.recovers (.optional rfl hbody .nil)))

structure Request.IsNormal (r : Request) : Prop where
  vars : r.vars.All Json.IsOrdered
  defaultResponse : r.defaultResponse.IsNormal
  template : r.template.IsNormal

theorem Request.IsNormal.recovers {r : Request} (h : r.IsNormal) :
    Recovers Request.decode r.toJson r := by
  refine .record (by simp) ?_
  simp only [List.append_assoc, List.cons_append, List.nil_append]
  exact .optional rfl (recovers_optionalText r.operationId) (.map rfl (recovers_values h.vars)
    (.list rfl (fun s _ => .text s) (.setting h.defaultResponse.recovers
      (.map rfl (fun e _ => e.2.recovers) (.setting h.template.recovers .nil)))))

structure Stage.IsNormal (s : Stage) : Prop where
  vars : s.vars.All Json.IsOrdered
  expected : ∀ c ∈ s.expected, c.IsNormal

theorem Stage.IsNormal.recovers {s : Stage} (h : s.IsNormal) :
    Recovers Stage.decode s.toJson s := by
  refine .record (by simp) ?_
  simp only [List.append_assoc]
  have href : ∀ r, s.ref = some r → Recovers RequestRef.decode r.toJson r ∧ r.toJson ≠ .null :=
    fun r _ => ⟨r.recovers, nofun⟩
  have hexpected : ∀ c, s.expected = some c →
      Recovers ResponseCode.decode c.toJson c ∧ c.toJson ≠ .null :=
    fun c hc => ⟨(h.expected c hc).recovers, nofun⟩
  exact .optional rfl href (.map rfl (recovers_values h.vars) (.optional rfl hexpected
    (.map rfl (fun e _ => e.2.recovers) .nil)))

/-! ## §4. Credentials. -/

def CredentialMethod.IsNormal (m : CredentialMethod) : Prop :=
  ∀ stages ∈ m.stages, ∀ s ∈ stages, s.IsNormal

theorem CredentialMethod.IsNormal.recovers {m : CredentialMethod} (h : m.IsNormal) :
    Recovers CredentialMethod.decode m.toJson m := by
  refine .record (by simp) ?_
  simp only [List.cons_append, List.nil_append]
  have hstages : ∀ stages, m.stages = some stages →
      Recovers (readList Stage.decode) (.array (stages.map Stage.toJson)) stages ∧
        Json.array (stages.map Stage.toJson) ≠ .null :=
    fun stages hm => ⟨.list fun s hs => (h stages hm s hs).recovers, nofun⟩
  exact .setting (.text m.template) (.optional rfl hstages .nil)

def Credential.IsNormal (c : Credential) : Prop := c.methods.All CredentialMethod.IsNormal

/-- A credential with its scheme and its methods. -/
theorem Credential.IsNormal.recovers {c : Credential} (h : c.IsNormal) :
    Recovers Credential.decode c.toJson c := by
  refine .record (by simp) ?_
  simp only [List.append_assoc, List.cons_append, List.nil_append]
  have hkind : ∀ k, c.kind = some k →
      Recovers (readChoice SchemeKind.words) (.string k.word) k ∧ Json.string k.word ≠ .null :=
    fun k _ => ⟨k.recovers, nofun⟩
  have hlocation : ∀ l, c.location = some l →
      Recovers (readChoice KeyLocation.words) (.string l.word) l ∧ Json.string l.word ≠ .null :=
    fun l _ => ⟨l.recovers, nofun⟩
  have hmethods : ∀ e ∈ c.methods.entries, Recovers CredentialMethod.decode e.2.toJson e.2 :=
    fun e he => (h e he).recovers
  exact .optional rfl hkind (.optional rfl hlocation (.optional rfl (recovers_optionalText c.name)
    (.setting (.text c.defaultMethod) (.setting (.map hmethods) .nil))))

/-! ## §5. Environments. -/

/-- The default, if there is one, is among those allowed. -/
def ImportedVariable.IsNormal (Allowed : Json → Prop) (v : ImportedVariable) : Prop :=
  ∀ j ∈ v.default, j.IsOrdered ∧ Allowed j

/-- A variable is recovered if its default is no null. -/
theorem ImportedVariable.IsNormal.recovers {v : ImportedVariable} (h : v.IsNormal (· ≠ .null)) :
    Recovers ImportedVariable.decode v.toJson v := by
  refine .record (by simp) ?_
  simp only [List.cons_append, List.nil_append]
  have hdefault : ∀ j, v.default = some j → Recovers Source.free (id j) j ∧ id j ≠ .null :=
    fun j hj => ⟨.free (h j hj).1, (h j hj).2⟩
  exact .setting (.text v.runtimeName) (.setting (.flag v.required) (.optional rfl hdefault .nil))

def EnvironmentDecl.IsNormal (Allowed : Json → Prop) (e : EnvironmentDecl) : Prop :=
  e.imports.All (ImportedVariable.IsNormal Allowed)

theorem EnvironmentDecl.IsNormal.recovers {e : EnvironmentDecl} (h : e.IsNormal (· ≠ .null)) :
    Recovers EnvironmentDecl.decode e.toJson e :=
  .record (by simp) (.setting (.map fun v hv => (h v hv).recovers) .nil)

/-! ## §6. Bundles. -/

/-- Every stage of the list is normal. -/
def NormalStages (stages : List Stage) : Prop := ∀ s ∈ stages, s.IsNormal

def Scenario.IsNormal (s : Scenario) : Prop := NormalStages s.stages

theorem Scenario.IsNormal.recovers {s : Scenario} (h : s.IsNormal) :
    Recovers Scenario.decode s.toJson s :=
  .record (by simp) (.setting (.list fun s hs => (h s hs).recovers) .nil)

structure Operation.IsNormal (o : Operation) : Prop where
  request : o.request.IsNormal
  before : NormalStages o.before
  after : NormalStages o.after
  scenarios : o.scenarios.All Scenario.IsNormal

/-- An operation with its request, its stages and its scenarios. -/
theorem Operation.IsNormal.recovers {o : Operation} (h : o.IsNormal) :
    Recovers Operation.decode o.toJson o := by
  refine .record (by simp) ?_
  simp only [List.append_assoc, List.cons_append, List.nil_append]
  exact .setting h.request.recovers (.list rfl (fun s hs => (h.before s hs).recovers)
    (.list rfl (fun s hs => (h.after s hs).recovers)
      (.setting (.map fun e he => (h.scenarios e he).recovers) .nil)))

/-- Every part of the bundle is normal; the defaults are among those allowed. -/
structure Bundle.IsNormal (Allowed : Json → Prop) (b : Bundle) : Prop where
  operations : b.operations.All Operation.IsNormal
  requests : b.requests.All Request.IsNormal
  before : NormalStages b.before
  after : NormalStages b.after
  credentialGroups : ∀ group ∈ b.credentialGroups, group.All Credential.IsNormal
  environments : b.environments.All (EnvironmentDecl.IsNormal Allowed)

/-- No imported variable declares a null as its default. -/
def Bundle.DeclaresNoNull (b : Bundle) : Prop :=
  b.environments.All fun e => e.imports.All fun v => v.default ≠ some .null

instance (o : Option Json) : Decidable (o = some .null) :=
  match o with
  | some .null => isTrue rfl
  | none | some (.bool _) | some (.number _) | some (.string _) | some (.array _)
  | some (.object _) => isFalse (by simp)

instance (b : Bundle) : Decidable b.DeclaresNoNull :=
  inferInstanceAs (Decidable (b.environments.All fun e =>
    e.imports.All fun v => v.default ≠ some .null))

/-- Where no null is allowed as a default, none is declared. -/
theorem Bundle.IsNormal.declaresNoNull {b : Bundle} (h : b.IsNormal (· ≠ .null)) :
    b.DeclaresNoNull := by
  intro e he v hv hnull
  exact (h.environments e he v hv .null hnull).2 rfl

/-- And a bundle that declares none is normal without allowing one. -/
theorem Bundle.IsNormal.withoutNull {Allowed : Json → Prop} {b : Bundle}
    (h : b.IsNormal Allowed) (hn : b.DeclaresNoNull) : b.IsNormal (· ≠ .null) := by
  refine { h with environments := fun e he v hv j hj => ?_ }
  refine ⟨(h.environments e he v hv j hj).1, ?_⟩
  rintro rfl
  exact hn e he v hv hj

/-- **A NORMAL BUNDLE WITHOUT NULL DEFAULTS IS RECOVERED** from its JSON form, in whatever order
that lists its members. -/
theorem Bundle.IsNormal.recovers {b : Bundle} (h : b.IsNormal (· ≠ .null)) :
    Recovers Bundle.decode b.toJson b := by
  refine .record (by simp) ?_
  simp only [List.append_assoc, List.cons_append, List.nil_append]
  have hruntime : ∀ r, b.runtime = some r →
      Recovers RuntimeConfiguration.decode r.toJson r ∧ r.toJson ≠ .null :=
    fun r _ => ⟨r.recovers, nofun⟩
  have hcredentials : ∀ group ∈ b.credentialGroups,
      Recovers (readMap Credential.decode) (encodeMap Credential.toJson group) group :=
    fun group hg => .map fun e he => (h.credentialGroups group hg e he).recovers
  exact .setting (.map fun e he => (h.operations e he).recovers)
    (.setting (.map fun e he => (h.requests e he).recovers)
      (.list rfl (fun s hs => (h.before s hs).recovers)
        (.list rfl (fun s hs => (h.after s hs).recovers)
          (.setting (.list hcredentials)
            (.setting (.map fun e he => (h.environments e he).recovers)
              (.optional rfl hruntime .nil))))))

end ApiPlaybook
