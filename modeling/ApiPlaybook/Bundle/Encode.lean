/-
  ApiPlaybook.Bundle.Encode
  ─────────────────────────
  **WRITING BUNDLES.**

  The JSON form of the parts of a bundle.  It is read back by the readers of
  `ApiPlaybook.Bundle.Decode`; what is absent or empty is left out where the
  form allows it.
-/
import ApiPlaybook.Bundle.Basic
import ApiPlaybook.Credential
import ApiPlaybook.Exchange

namespace ApiPlaybook

/-! ## §1. Members that may be left out. -/

/-- A member that is left out when absent. -/
def optionalMember {α : Type} (name : String) (encode : α → Json) :
    Option α → List (String × Json)
  | some v => [(name, encode v)]
  | none => []

/-- A list that is left out when empty. -/
def listMember {α : Type} (name : String) (encode : α → Json) (vs : List α) :
    List (String × Json) :=
  if vs.isEmpty then [] else [(name, .array (vs.map encode))]

/-- A map as an object. -/
def encodeMap {α : Type} (encode : α → Json) (m : NameMap α) : Json :=
  .ofNameMap (m.mapValues fun _ v => encode v)

/-- A map that is left out when empty. -/
def mapMember {α : Type} (name : String) (encode : α → Json) (m : NameMap α) :
    List (String × Json) :=
  if m.isEmpty then [] else [(name, encodeMap encode m)]

/-! ## §2. Extraction rules. -/

def ResponseCode.toJson (c : ResponseCode) : Json := .string c.text

def Side.word : Side → String
  | .request => "request"
  | .response => "response"

def Location.word : Location → String
  | .body => "body"
  | .header => "header"
  | .query => "query"
  | .cookie => "cookie"

def PathKind.word : PathKind → String
  | .pointer => "jsonPointer"
  | .jsonPath => "jsonPath"

def ExtractionRule.toJson (r : ExtractionRule) : Json :=
  .ofMembers ([("from", .string r.side.word), ("in", .string r.location.word),
    ("type", .string r.pathKind.word), ("path", .string r.path)]
    ++ optionalMember "regex" .string r.pattern)

def ResponseRules.toJson (r : ResponseRules) : Json :=
  .ofMembers [("variableAssignments", encodeMap ExtractionRule.toJson r.assignments)]

/-! ## §3. Requests and stages. -/

def Parameters.toJson (p : Parameters) : Json :=
  .ofMembers (mapMember "query" id p.query ++ mapMember "header" id p.header
    ++ mapMember "path" id p.path ++ mapMember "cookie" id p.cookie)

def Body.toJson (b : Body) : Json :=
  .ofMembers [("mediaType", .string b.mediaType), ("value", b.value)]

def Template.toJson (t : Template) : Json :=
  .ofMembers (optionalMember "url" .string t.url ++ optionalMember "method" .string t.method
    ++ [("parameters", t.parameters.toJson)] ++ optionalMember "body" Body.toJson t.body)

def Request.toJson (r : Request) : Json :=
  .ofMembers (optionalMember "operationId" .string r.operationId
    ++ mapMember "environment" id r.vars ++ listMember "auth" .string r.auth
    ++ [("defaultResponse", r.defaultResponse.toJson)]
    ++ mapMember "responses" ResponseRules.toJson r.responses
    ++ [("request", r.template.toJson)])

def RequestRef.toJson (r : RequestRef) : Json :=
  .ofMembers [("type", .string r.kind.word), ("id", .string r.id)]

def Stage.toJson (s : Stage) : Json :=
  .ofMembers (optionalMember "ref" RequestRef.toJson s.ref
    ++ mapMember "environment" id s.vars
    ++ optionalMember "expectedResponse" ResponseCode.toJson s.expected
    ++ mapMember "responses" ResponseRules.toJson s.responses)

/-! ## §4. Credentials. -/

def SchemeKind.word : SchemeKind → String
  | .apiKey => "apiKey"
  | .basic => "basic"
  | .bearer => "bearer"
  | .oauth2 => "oauth2"
  | .openIdConnect => "openIdConnect"

def KeyLocation.word : KeyLocation → String
  | .header => "header"
  | .query => "query"
  | .cookie => "cookie"

def SecurityScheme.toJson (s : SecurityScheme) : Json :=
  .ofMembers ([("kind", .string s.kind.word)]
    ++ optionalMember "location" (fun l => .string l.word) s.location
    ++ optionalMember "name" .string s.name)

def CredentialMethod.toJson (m : CredentialMethod) : Json :=
  .ofMembers ([("credential", .string m.template)]
    ++ optionalMember "requests" (fun ss => .array (ss.map Stage.toJson)) m.stages)

def Credential.toJson (c : Credential) : Json :=
  .ofMembers (optionalMember "type" (fun k => .string k.word) c.kind
    ++ optionalMember "in" (fun l => .string l.word) c.location
    ++ optionalMember "name" .string c.name
    ++ [("default", .string c.defaultMethod),
      ("methods", encodeMap CredentialMethod.toJson c.methods)])

/-! ## §5. Environments and bundles. -/

def ImportedVariable.toJson (v : ImportedVariable) : Json :=
  .ofMembers ([("name", .string v.runtimeName), ("required", .bool v.required)]
    ++ optionalMember "default" id v.default)

def EnvironmentDecl.toJson (e : EnvironmentDecl) : Json :=
  .ofMembers [("variables", encodeMap ImportedVariable.toJson e.imports)]

def Scenario.toJson (s : Scenario) : Json :=
  .ofMembers [("requests", .array (s.stages.map Stage.toJson))]

def Operation.toJson (o : Operation) : Json :=
  .ofMembers ([("request", o.request.toJson)] ++ listMember "before" Stage.toJson o.before
    ++ listMember "after" Stage.toJson o.after
    ++ [("scenarios", encodeMap Scenario.toJson o.scenarios)])

def RuntimeConfiguration.toJson (r : RuntimeConfiguration) : Json :=
  .ofMembers (optionalMember "environment" .string r.environment)

def Bundle.toJson (b : Bundle) : Json :=
  .ofMembers ([("operations", encodeMap Operation.toJson b.operations),
    ("requests", encodeMap Request.toJson b.requests)]
    ++ listMember "before" Stage.toJson b.before ++ listMember "after" Stage.toJson b.after
    ++ [("authenticationDetails",
      .array (b.credentialGroups.map (encodeMap Credential.toJson))),
      ("environments", encodeMap EnvironmentDecl.toJson b.environments)]
    ++ optionalMember "runtimeConfiguration" RuntimeConfiguration.toJson b.runtime)

/-! ## §6. Scopes and exchanges. -/

def Assignment.toJson (a : Assignment) : Json :=
  .ofMembers [("name", .string a.name), ("value", a.value)]

def Scope.toJson (s : Scope) : Json :=
  .ofMembers ([("id", .string s.id), ("env", .ofNameMap s.vars)]
    ++ listMember "assignments" Assignment.toJson s.assignments)

def ScopeStack.toJson (s : ScopeStack) : Json := .array (s.map Scope.toJson)

def HttpRequest.toJson (r : HttpRequest) : Json :=
  .ofMembers ([("method", .string r.method), ("url", .string r.url),
    ("headers", encodeMap .string r.headers)] ++ optionalMember "body" .string r.body)

def Reply.toJson : Reply → Json
  | .mock => .ofMembers [("kind", .string "mock")]
  | .response r => .ofMembers [("kind", .string "response"), ("statusCode", .ofInt r.status),
    ("headers", encodeMap .string r.headers), ("body", .string r.body)]

def ResolvedCredential.toJson (c : ResolvedCredential) : Json :=
  .ofMembers ([("credential", .string c.key.credential), ("method", .string c.key.method),
    ("value", .string c.value)] ++ optionalMember "scheme" SecurityScheme.toJson c.scheme)

end ApiPlaybook
