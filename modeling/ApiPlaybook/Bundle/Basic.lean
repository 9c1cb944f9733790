/-
  ApiPlaybook.Bundle.Basic
  ────────────────────────
  **PLAYBOOK BUNDLES.**

  A bundle holds the requests that can be made, each for an operation of an API
  or for a free URL, and the stages in which they are made: before and after
  each operation, in the scenarios of an operation, before and after all, and
  to acquire a credential.
-/
import ApiPlaybook.Environment
import ApiPlaybook.ResponseCode

namespace ApiPlaybook

/-! ## §1. Extraction rules. -/

/-- The side of an exchange that a rule reads. -/
inductive Side where
  | request
  | response
deriving DecidableEq, Inhabited

/-- Where on that side a rule looks. -/
inductive Location where
  | body
  | header
  | query
  | cookie
deriving DecidableEq, Inhabited

/-- How the path of a rule for bodies is written. -/
inductive PathKind where
  | pointer
  | jsonPath
deriving DecidableEq, Inhabited

/-- How the value of a variable is found in an exchange. -/
structure ExtractionRule where
  side : Side
  location : Location
  pathKind : PathKind
  /-- A path into a body, or the name of a header, parameter or cookie. -/
  path : String
  /-- Keeps the part of the value that the pattern matches. -/
  pattern : Option String
deriving DecidableEq, Inhabited

/-- The variables to set after a response. -/
structure ResponseRules where
  assignments : NameMap ExtractionRule
deriving Inhabited, BEq

/-- Rules by status, category or `default`. -/
abbrev Responses := NameMap ResponseRules

/-! ## §2. Requests. -/

/-- Parameters of a request, before substitution or after it. -/
structure Parameters where
  query : NameMap Json
  header : NameMap Json
  path : NameMap Json
  cookie : NameMap Json
deriving Inhabited, BEq

/-- The body of a request. -/
structure Body where
  mediaType : String
  value : Json
deriving Inhabited, BEq

/-- What a request is made from. -/
structure Template where
  url : Option String
  method : Option String
  parameters : Parameters
  body : Option Body
deriving Inhabited, BEq

/-- A request of the bundle. -/
structure Request where
  /-- Absent for requests to a free URL, which carry no credentials. -/
  operationId : Option String
  vars : NameMap Json
  /-- References to credentials. -/
  auth : List String
  defaultResponse : ResponseCode
  responses : Responses
  template : Template
deriving Inhabited, BEq

/-- Whether the request is for no operation of the API. -/
def Request.isExternal (r : Request) : Bool := r.operationId.isNone

/-! ## §3. Stages. -/

/-- Where a request is kept. -/
inductive RefKind where
  | operation
  | request
deriving DecidableEq, Inhabited

/-- A reference to a request of the bundle. -/
structure RequestRef where
  kind : RefKind
  id : String
deriving DecidableEq, Inhabited

def RefKind.word : RefKind → String
  | .operation => "operation"
  | .request => "request"

def RequestRef.text (r : RequestRef) : String := r.kind.word ++ "/" ++ r.id

/-- One request made in a playbook. -/
structure Stage where
  ref : Option RequestRef
  vars : NameMap Json
  expected : Option ResponseCode
  responses : Responses
deriving Inhabited, BEq

/-- A stage that only makes a request. -/
def Stage.ofRef (ref : RequestRef) : Stage := ⟨some ref, .empty, none, .empty⟩

/-! ## §4. Credentials. -/

/-- How a credential is carried by a request. -/
inductive SchemeKind where
  | apiKey
  | basic
  | bearer
  | oauth2
  | openIdConnect
deriving DecidableEq, Inhabited

/-- Where an API key is put. -/
inductive KeyLocation where
  | header
  | query
  | cookie
deriving DecidableEq, Inhabited

/-- A security scheme. -/
structure SecurityScheme where
  kind : SchemeKind
  location : Option KeyLocation
  name : Option String
deriving DecidableEq, Inhabited

/-- A way to obtain the value of a credential. -/
structure CredentialMethod where
  /-- The value, with references to variables. -/
  template : String
  /-- The stages to run first. -/
  stages : Option (List Stage)
deriving Inhabited, BEq

/-- A credential. -/
structure Credential where
  /-- The scheme, used when the API description declares none. -/
  kind : Option SchemeKind
  location : Option KeyLocation
  name : Option String
  /-- The method taken when a reference names none. -/
  defaultMethod : String
  methods : NameMap CredentialMethod
deriving Inhabited, BEq

/-- The scheme that the credential itself declares. -/
def Credential.declaredScheme (c : Credential) : Option SecurityScheme :=
  c.kind.map fun kind => ⟨kind, c.location, c.name⟩

/-! ## §5. Bundles. -/

/-- A way to use an operation. -/
structure Scenario where
  stages : List Stage
deriving Inhabited, BEq

/-- An operation with what is done around it. -/
structure Operation where
  request : Request
  before : List Stage
  after : List Stage
  scenarios : NameMap Scenario
deriving Inhabited, BEq

/-- Settings of a run. -/
structure RuntimeConfiguration where
  environment : Option String
deriving DecidableEq, Inhabited

/-- A playbook bundle. -/
structure Bundle where
  operations : NameMap Operation
  requests : NameMap Request
  before : List Stage
  after : List Stage
  /-- Groups of credentials; the first group that knows a name counts. -/
  credentialGroups : List (NameMap Credential)
  environments : NameMap EnvironmentDecl
  runtime : Option RuntimeConfiguration
deriving Inhabited, BEq

namespace Bundle

/-- The request that a reference leads to. -/
def request? (b : Bundle) (ref : RequestRef) : Option Request :=
  match ref.kind with
  | .operation => (b.operations.get? ref.id).map (·.request)
  | .request => b.requests.get? ref.id

/-- The credential of a name. -/
def credential? (b : Bundle) (name : String) : Option Credential :=
  b.credentialGroups.findSome? (·.get? name)

/-- The environment that the runtime configuration names, unless it is empty. -/
def chosenEnvironment (b : Bundle) : Option String :=
  b.runtime.bind fun r => r.environment

/-- The name of the selected environment. -/
def environmentName (b : Bundle) : String :=
  match b.chosenEnvironment with
  | some name => if name.isEmpty then "default" else name
  | none => "default"

/-- The scope of the selected environment; empty when it is not declared. -/
def importEnvironment (b : Bundle) (values : RuntimeValues) : ImportedScope :=
  match b.environments.get? b.environmentName with
  | some decl => decl.importFrom values
  | none => ⟨.empty EnvironmentDecl.scopeId, []⟩

end Bundle

end ApiPlaybook
