/-
  ApiPlaybook.Proofs.CommandLine.Servers
  ──────────────────────────────────────
  **WHICH SERVER A MOCK SESSION ASKS.**

  Each operation is asked at a base of its own: the first server of the
  operation, of its path or of the document.  A session that was given no server
  should leave this to the operations and put the local server in only where
  such a base is blank.  A mock session decides it once for all of them, by
  whether the document has a server of its own, so that a server of one
  operation is passed over, and a blank one of the document is taken.

  It asks as the operations declare exactly where neither makes a difference
  (`asksAsDeclared_session_iff`), and with one server at the only operation it
  does not (`not_asksAsDeclared_operationServer`).
-/
import ApiPlaybook.CommandLine.Session
import ApiPlaybook.Proofs.Preparation.Build

namespace ApiPlaybook

/-! ## §1. The server of a session. -/

/-- A session by another transport has the same bundle, API and values, and a server that
is chosen anew. -/
theorem Surroundings.session_of_transport {s : Surroundings} {c : SessionSources}
    {session : Session} (h : s.session c = .ok session) (choice : TransportChoice) :
    s.session { c with transport := choice } = .ok
      ⟨{ session.setup with
          server := chooseServer choice.mock choice.server s.server session.setup.api },
        session.values, choice.transport⟩ := by
  unfold Surroundings.session at h ⊢
  dsimp only at h ⊢
  -- the bundle, the values and the description of the API are read alike
  cases hbundle : s.validBundleOf c.bundle with
  | error e =>
    rw [hbundle] at h
    cases h
  | ok bundle =>
    cases hvalues : s.runtimeValues c.runtime with
    | error e =>
      rw [hbundle, hvalues] at h
      cases h
    | ok values =>
      cases hapi : s.apiOf c.api with
      | error e =>
        rw [hbundle, hvalues, hapi] at h
        cases h
      | ok api =>
        rw [hbundle, hvalues, hapi] at h
        cases h
        rfl

/-- The server of a session is chosen by the options, then by the surroundings, then from the
document. -/
theorem Surroundings.session_server {s : Surroundings} {c : SessionSources} {session : Session}
    (h : s.session c = .ok session) :
    session.setup.server
      = chooseServer c.transport.mock c.transport.server s.server session.setup.api := by
  have hsame := s.session_of_transport h c.transport
  rw [h] at hsame
  exact congrArg (fun session => session.setup.server) (Except.ok.inj hsame)

/-- A session that was given no server has none, unless nothing is sent and the document
has none either. -/
theorem chooseServer_none (mock : Bool) (api : ApiDocument) :
    chooseServer mock none none api
      = if mock && api.defaultServer?.isNone then localServer else "" := by
  have hblank : isBlankText "" = true := rfl
  unfold chooseServer
  simp [hblank]

namespace ApiOperation

/-- Without a server of the session, an operation has the base it declares. -/
theorem base_empty (o : ApiOperation) : o.base "" = o.baseUrl := rfl

/-- The local server stands in place of whatever was declared. -/
theorem base_localServer (o : ApiOperation) : o.base localServer = localServer := by
  have hblank : isBlankText localServer = false := by decide
  simp [base, hblank]

end ApiOperation

/-! ## §2. Declared servers. -/

namespace ApiDocument

/-- The server that an operation or its path declares. -/
def nearServer? (p : OperationPlace) : Option String :=
  (firstServer? p.operation).or (firstServer? p.pathItem)

/-- The base of an operation is the nearest server. -/
theorem baseUrl_of_place {d : ApiDocument} {id : String} {p : OperationPlace} {o : ApiOperation}
    (hp : d.place? id = some p) (ho : (d.operation? id).value = some o) :
    o.baseUrl = ((nearServer? p).or d.defaultServer?).getD "" := by
  unfold operation? at ho
  rw [hp] at ho
  cases ho
  rfl

/-- The servers of a document for which it makes no difference whether the choice is made
once for the document or at each operation. -/
structure OneChoiceSuffices (d : ApiDocument) (p : OperationPlace) : Prop where
  /-- Where the document has no server, nor has the operation, except for the local one. -/
  without : d.defaultServer? = none →
    ∀ url, nearServer? p = some url → isBlankText url = true ∨ url = localServer
  /-- Where the document has one, there is something to ask. -/
  withOne : ∀ url, d.defaultServer? = some url → isBlankText ((nearServer? p).getD url) = false

end ApiDocument

/-! ## §3. What is asked. -/

/-- A mock session asks an operation where it is declared, as a session that sends does. -/
structure Session.AsksAsDeclared (mocked plain : Session) (id : String) (o : ApiOperation) :
    Prop where
  /-- Both ask at the base of the operation, if there is one. -/
  declared : isBlankText o.baseUrl = false →
    o.base mocked.setup.server = o.baseUrl ∧ o.base plain.setup.server = o.baseUrl
  /-- The local server stands in where there is none. -/
  standsIn : isBlankText o.baseUrl = true → o.base mocked.setup.server = localServer
  /-- Whatever the request has, it does not fail for want of a server. -/
  served : ∀ t credentials operation,
    (prepareOperation mocked.setup.api mocked.setup.server id t credentials).value
      ≠ .error (.missingServer operation)

namespace Session

variable {mocked plain : Session} {id : String} {o : ApiOperation}

/-- A request that has a base does not fail for want of a server. -/
theorem served_of_base {c : Setup} (ho : (c.api.operation? id).value = some o)
    (hbase : isBlankText (o.base c.server) = false) (t : Template) (credentials : AuthResult)
    (operation : String) :
    (prepareOperation c.api c.server id t credentials).value
      ≠ .error (.missingServer operation) := by
  rw [prepareOperation_value_of_operation ho]
  intro h
  have hblank := (ApiOperation.prepare_value_eq_missingServer.mp h).1
  rw [hbase] at hblank
  cases hblank

/-- With the local server for all operations. -/
theorem asksAsDeclared_iff_of_local (ho : (mocked.setup.api.operation? id).value = some o)
    (hmocked : mocked.setup.server = localServer) (hplain : plain.setup.server = "") :
    mocked.AsksAsDeclared plain id o ↔ isBlankText o.baseUrl = true ∨ o.baseUrl = localServer := by
  constructor
  · intro h
    cases hblank : isBlankText o.baseUrl with
    | true => exact .inl rfl
    | false =>
      have hbase := (h.declared hblank).1
      rw [hmocked, o.base_localServer] at hbase
      exact .inr hbase.symm
  · intro h
    have hlocal : o.base mocked.setup.server = localServer := by
      rw [hmocked, o.base_localServer]
    refine ⟨fun hblank => ?_, fun _ => hlocal, served_of_base ho (by rw [hlocal]; decide)⟩
    have hbase : o.baseUrl = localServer := h.resolve_left (by simp [hblank])
    rw [hlocal, hplain, o.base_empty]
    exact ⟨hbase.symm, rfl⟩

/-- With the choice left to the operations. -/
theorem asksAsDeclared_iff_of_empty (ho : (mocked.setup.api.operation? id).value = some o)
    (hmocked : mocked.setup.server = "") (hplain : plain.setup.server = "") :
    mocked.AsksAsDeclared plain id o ↔ isBlankText o.baseUrl = false := by
  constructor
  · intro h
    cases hblank : isBlankText o.baseUrl with
    | false => rfl
    | true =>
      -- a blank base would be the local server
      have hbase := h.standsIn hblank
      rw [hmocked, o.base_empty] at hbase
      rw [hbase] at hblank
      exact absurd hblank (by decide)
  · intro hblank
    refine ⟨fun _ => ?_, fun h => by simp [hblank] at h, served_of_base ho ?_⟩
    · rw [hmocked, hplain, o.base_empty]
      exact ⟨rfl, rfl⟩
    · rwa [hmocked, o.base_empty]

end Session

open ApiDocument in
/-- **A MOCK SESSION ASKS AS DECLARED** exactly where one choice for the whole document is
as good as one at each operation. -/
theorem asksAsDeclared_session_iff {s : Surroundings} {c : SessionSources} {mocked : Session}
    (h : s.session c = .ok mocked) (hmock : c.transport.mock = true)
    (hgiven : c.transport.server = none) (haround : s.server = none) :
    ∃ plain, s.session { c with transport := { c.transport with mock := false } } = .ok plain ∧
      plain.setup.api = mocked.setup.api ∧
      ∀ id p o, mocked.setup.api.place? id = some p →
        (mocked.setup.api.operation? id).value = some o →
        (mocked.AsksAsDeclared plain id o ↔ mocked.setup.api.OneChoiceSuffices p) := by
  refine ⟨_, s.session_of_transport h { c.transport with mock := false }, rfl, ?_⟩
  intro id p o hp ho
  have hbase := baseUrl_of_place hp ho
  have hmocked := s.session_server h
  rw [hmock, hgiven, haround, chooseServer_none, Bool.true_and] at hmocked
  have hplain : chooseServer false c.transport.server s.server mocked.setup.api = "" := by
    rw [hgiven, haround, chooseServer_none]
    rfl
  -- the mock session falls back on the local server if the document names none
  cases hdefault : mocked.setup.api.defaultServer? with
  | none =>
    rw [hdefault, Option.or_none] at hbase
    rw [hdefault] at hmocked
    rw [Session.asksAsDeclared_iff_of_local ho hmocked hplain, hbase]
    refine ⟨fun h => ⟨fun _ url hurl => by simpa [hurl] using h, by simp [hdefault]⟩, fun h => ?_⟩
    cases hnear : nearServer? p with
    | none => exact .inl rfl
    | some url => exact h.without hdefault url hnear
  | some url =>
    have hbase : o.baseUrl = (nearServer? p).getD url := by
      rw [hbase, hdefault]
      cases nearServer? p <;> rfl
    rw [hdefault] at hmocked
    rw [Session.asksAsDeclared_iff_of_empty ho hmocked hplain, hbase]
    refine ⟨fun h => ⟨by simp [hdefault], fun url' hurl => ?_⟩, fun h => h.withOne url hdefault⟩
    rw [hdefault] at hurl
    cases hurl
    exact h

/-! ## §4. Two descriptions. -/

/-- An API description beside a bundle without requests; no server is named around them. -/
def describedBy (description : String) : Surroundings where
  readFile path := .ok <| if path = "api.yaml" then description else
    "operations: \x7b\x7d\nrequests: \x7b\x7d\nenvironments: \x7b\x7d\nauthenticationDetails: []\n"
  server := none

/-- Nothing is sent, and no server is given. -/
def mockSources : SessionSources :=
  ⟨"bundle.yaml", "api.yaml", ⟨none, [], []⟩, ⟨none, true, 30000, 1000000, false⟩⟩

/-- The document has a server. -/
def documentServerText : String :=
  "servers:\n- url: http://api.test\npaths:\n  /items:\n    get:\n      operationId: list\n"

/-- A document that names one server for all operations: a dry run asks it as a run would. -/
theorem asksAsDeclared_documentServer : ∃ mocked plain o,
    (describedBy documentServerText).session mockSources = .ok mocked ∧
      (describedBy documentServerText).session
        { mockSources with transport := { mockSources.transport with mock := false } } = .ok plain ∧
      (mocked.setup.api.operation? "list").value = some o ∧ o.baseUrl = "http://api.test" ∧
      mocked.AsksAsDeclared plain "list" o := by
  -- read the two texts once, and everything that is asked about them
  have hread : ((describedBy documentServerText).session mockSources).toOption.map (fun mocked =>
      (mocked.setup.api.operation? "list").value
          == some ⟨"list", "GET", "/items", "http://api.test", []⟩
        && (mocked.setup.api.place? "list").any (fun p => (ApiDocument.nearServer? p).isNone)
        && mocked.setup.api.defaultServer? == some "http://api.test") = some true := by
    decide +kernel
  obtain ⟨mocked, hmocked, hcheck⟩ := exists_of_toOption_map _ _ _ hread
  simp only [Bool.and_eq_true, beq_iff_eq] at hcheck
  obtain ⟨⟨ho, hnear⟩, hdefault⟩ := hcheck
  obtain ⟨p, hp, hnear⟩ := (Option.any_eq_true _ _).mp hnear
  obtain ⟨plain, hplain, -, hiff⟩ := asksAsDeclared_session_iff hmocked rfl rfl rfl
  refine ⟨mocked, plain, _, hmocked, hplain, ho, rfl, (hiff "list" p _ hp ho).mpr ?_⟩
  rw [Option.isNone_iff_eq_none] at hnear
  refine ⟨by simp [hdefault], fun url hurl => ?_⟩
  rw [hdefault] at hurl
  cases hurl
  rw [hnear]
  decide

/-- The only operation has a server, and the document has none. -/
def operationServerText : String :=
  "paths:\n  /items:\n    get:\n      operationId: list\n" ++
    "      servers:\n      - url: http://items.test\n"

/-- The operation declares its base, and the mock session passes it over. -/
theorem not_asksAsDeclared_operationServer : ∃ mocked plain o,
    (describedBy operationServerText).session mockSources = .ok mocked ∧
      (describedBy operationServerText).session
        { mockSources with transport := { mockSources.transport with mock := false } } = .ok plain ∧
      (mocked.setup.api.operation? "list").value = some o ∧ o.baseUrl = "http://items.test" ∧
      o.base plain.setup.server = "http://items.test" ∧
      o.base mocked.setup.server = "http://localhost" ∧ ¬ mocked.AsksAsDeclared plain "list" o := by
  have hread : ((describedBy operationServerText).session mockSources).toOption.map (fun mocked =>
      (mocked.setup.api.operation? "list").value
          == some ⟨"list", "GET", "/items", "http://items.test", []⟩
        && mocked.setup.server == localServer
        && chooseServer false none none mocked.setup.api == "") = some true := by
    decide +kernel
  obtain ⟨mocked, hmocked, hcheck⟩ := exists_of_toOption_map _ _ _ hread
  simp only [Bool.and_eq_true, beq_iff_eq] at hcheck
  obtain ⟨⟨ho, hserver⟩, hplain⟩ := hcheck
  have hbase : ApiOperation.base ⟨"list", "GET", "/items", "http://items.test", []⟩
      mocked.setup.server = "http://localhost" := by
    rw [hserver]
    exact ApiOperation.base_localServer _
  refine ⟨mocked, _, _, hmocked, Surroundings.session_of_transport hmocked _, ho, rfl, ?_, hbase,
    ?_⟩
  · show ApiOperation.base _ (chooseServer false none none mocked.setup.api) = _
    rw [hplain]
    rfl
  · intro h
    -- the declared base would be the local server
    have hdeclared := (h.declared (by decide)).1
    rw [hbase] at hdeclared
    exact absurd hdeclared (by decide)

end ApiPlaybook
