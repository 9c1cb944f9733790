/-
  ApiPlaybook.Bundle.Decode
  ─────────────────────────
  **READING BUNDLES.**

  The readers for the parts of a bundle, over any kind of document (see
  `ApiPlaybook.Decode`).  What may be absent has an empty value then.
-/
import ApiPlaybook.Bundle.Basic
import ApiPlaybook.Credential
import ApiPlaybook.Decode
import ApiPlaybook.Exchange

namespace ApiPlaybook

variable {σ : Type} [Source σ]

/-- A map of free values. -/
def readValues (x : σ) : Except DecodeError (NameMap Json) := readMap Source.free x

/-- A code, written as a number of 16 bits or as a text. -/
def ResponseCode.decode (x : σ) : Except DecodeError ResponseCode := do
  match ← Source.free x with
  | .number (.integer i) =>
    if 0 ≤ i ∧ i < UInt16.size then return .ofStatus i.toNat
    else throw (.misfit (.noAlternative "Raw"))
  | .string s => return .ofText s
  | _ => throw (.misfit (.noAlternative "Raw"))

/-! ## §1. Extraction rules. -/

def Side.words : List (String × Side) := [("request", .request), ("response", .response)]

def Location.words : List (String × Location) :=
  [("body", .body), ("header", .header), ("query", .query), ("cookie", .cookie)]

def PathKind.words : List (String × PathKind) :=
  [("jsonPointer", .pointer), ("jsonPath", .jsonPath)]

def ExtractionRule.decode : σ → Except DecodeError ExtractionRule :=
  readRecord "VariableAssignment" [
    .allows "from" (readChoice Side.words) fun r v => { r with side := v },
    .needs "in" (readChoice Location.words) fun r v => { r with location := v },
    .allows "type" (readChoice PathKind.words) fun r v => { r with pathKind := v },
    .needs "path" readText fun r v => { r with path := v },
    .allows "regex" (readOptional readText) fun r v => { r with pattern := v }]
    ⟨.response, .body, .pointer, "", none⟩

def ResponseRules.decode : σ → Except DecodeError ResponseRules :=
  readRecord "ResponseProcessing" [
    .allows "variableAssignments" (readMap ExtractionRule.decode)
      fun r v => { r with assignments := v }]
    ⟨.empty⟩

def Responses.decode (x : σ) : Except DecodeError Responses := readMap ResponseRules.decode x

/-! ## §2. Requests. -/

def Parameters.decode : σ → Except DecodeError Parameters :=
  readRecord "RequestParameters" [
    .allows "query" readValues fun r v => { r with query := v },
    .allows "header" readValues fun r v => { r with header := v },
    .allows "path" readValues fun r v => { r with path := v },
    .allows "cookie" readValues fun r v => { r with cookie := v }]
    ⟨.empty, .empty, .empty, .empty⟩

def Body.decode : σ → Except DecodeError Body :=
  readRecord "RequestBody" [
    .needs "mediaType" readText fun r v => { r with mediaType := v },
    .needs "value" Source.free fun r v => { r with value := v }]
    ⟨"", .null⟩

/-- A template that says nothing. -/
def Template.blank : Template := ⟨none, none, ⟨.empty, .empty, .empty, .empty⟩, none⟩

def Template.decode : σ → Except DecodeError Template :=
  readRecord "RequestTemplate" [
    .allows "url" (readOptional readText) fun r v => { r with url := v },
    .allows "method" (readOptional readText) fun r v => { r with method := v },
    .allows "parameters" Parameters.decode fun r v => { r with parameters := v },
    .allows "body" (readOptional Body.decode) fun r v => { r with body := v }]
    .blank

def Request.decode : σ → Except DecodeError Request :=
  readRecord "Request" [
    .allows "operationId" (readOptional readText) fun r v => { r with operationId := v },
    .allows "environment" readValues fun r v => { r with vars := v },
    .allows "auth" (readList readText) fun r v => { r with auth := v },
    .needs "defaultResponse" ResponseCode.decode fun r v => { r with defaultResponse := v },
    .allows "responses" Responses.decode fun r v => { r with responses := v },
    .allows "request" Template.decode fun r v => { r with template := v }]
    ⟨none, .empty, [], ⟨""⟩, .empty, .blank⟩

/-! ## §3. Stages. -/

def RefKind.words : List (String × RefKind) :=
  [("operation", .operation), ("request", .request)]

def RequestRef.decode : σ → Except DecodeError RequestRef :=
  readRecord "RequestRef" [
    .needs "type" (readChoice RefKind.words) fun r v => { r with kind := v },
    .needs "id" readText fun r v => { r with id := v }]
    ⟨.operation, ""⟩

def Stage.decode : σ → Except DecodeError Stage :=
  readRecord "Stage" [
    .allows "ref" (readOptional RequestRef.decode) fun r v => { r with ref := v },
    .allows "environment" readValues fun r v => { r with vars := v },
    .allows "expectedResponse" (readOptional ResponseCode.decode)
      fun r v => { r with expected := v },
    .allows "responses" Responses.decode fun r v => { r with responses := v }]
    ⟨none, .empty, none, .empty⟩

/-! ## §4. Credentials. -/

def SchemeKind.words : List (String × SchemeKind) :=
  [("apiKey", .apiKey), ("basic", .basic), ("bearer", .bearer), ("oauth2", .oauth2),
    ("openIdConnect", .openIdConnect)]

def KeyLocation.words : List (String × KeyLocation) :=
  [("header", .header), ("query", .query), ("cookie", .cookie)]

def SecurityScheme.decode : σ → Except DecodeError SecurityScheme :=
  readRecord "SecurityScheme" [
    .needs "kind" (readChoice SchemeKind.words) fun r v => { r with kind := v },
    .allows "location" (readOptional (readChoice KeyLocation.words))
      fun r v => { r with location := v },
    .allows "name" (readOptional readText) fun r v => { r with name := v }]
    ⟨.apiKey, none, none⟩

def CredentialMethod.decode : σ → Except DecodeError CredentialMethod :=
  readRecord "CredentialMethod" [
    .needs "credential" readText fun r v => { r with template := v },
    .allows "requests" (readOptional (readList Stage.decode)) fun r v => { r with stages := v }]
    ⟨"", none⟩

def Credential.decode : σ → Except DecodeError Credential :=
  readRecord "Credential" [
    .allows "type" (readOptional (readChoice SchemeKind.words)) fun r v => { r with kind := v },
    .allows "in" (readOptional (readChoice KeyLocation.words))
      fun r v => { r with location := v },
    .allows "name" (readOptional readText) fun r v => { r with name := v },
    .needs "default" readText fun r v => { r with defaultMethod := v },
    .allows "methods" (readMap CredentialMethod.decode) fun r v => { r with methods := v }]
    ⟨none, none, none, "", .empty⟩

/-! ## §5. Environments. -/

def ImportedVariable.decode : σ → Except DecodeError ImportedVariable :=
  readRecord "EnvironmentVariable" [
    .needs "name" readText fun r v => { r with runtimeName := v },
    .allows "required" Source.flag fun r v => { r with required := v },
    .allows "default" (readOptional Source.free) fun r v => { r with default := v }]
    ⟨"", false, none⟩

def EnvironmentDecl.decode : σ → Except DecodeError EnvironmentDecl :=
  readRecord "PlaybookEnvironment" [
    .allows "variables" (readMap ImportedVariable.decode) fun r v => { r with imports := v }]
    ⟨.empty⟩

def RuntimeValues.decode : σ → Except DecodeError RuntimeValues :=
  readRecord "EnvData" [
    .allows "default" readValues fun r v => { r with defaults := v },
    .allows "secrets" readValues fun r v => { r with secrets := v }]
    ⟨.empty, .empty⟩

def Assignment.decode : σ → Except DecodeError Assignment :=
  readRecord "AssignedVariable" [
    .needs "name" readText fun r v => { r with name := v },
    .needs "value" Source.free fun r v => { r with value := v }]
    ⟨"", .null⟩

def Scope.decode : σ → Except DecodeError Scope :=
  readRecord "PlaybookEnv" [
    .needs "id" readText fun r v => { r with id := v },
    .needs "env" readValues fun r v => { r with vars := v },
    .allows "assignments" (readList Assignment.decode) fun r v => { r with assignments := v }]
    (.empty "")

/-! ## §6. Bundles. -/

def Scenario.decode : σ → Except DecodeError Scenario :=
  readRecord "Scenario" [
    .allows "requests" (readList Stage.decode) fun r v => { r with stages := v }]
    ⟨[]⟩

def Operation.decode : σ → Except DecodeError Operation :=
  readRecord "Operation" [
    .needs "request" Request.decode fun r v => { r with request := v },
    .allows "before" (readList Stage.decode) fun r v => { r with before := v },
    .allows "after" (readList Stage.decode) fun r v => { r with after := v },
    .allows "scenarios" (readMap Scenario.decode) fun r v => { r with scenarios := v }]
    ⟨default, [], [], .empty⟩

def RuntimeConfiguration.decode : σ → Except DecodeError RuntimeConfiguration :=
  readRecord "RuntimeConfiguration" [
    .allows "environment" (readOptional readText) fun r v => { r with environment := v }]
    ⟨none⟩

/-- A bundle without anything. -/
def Bundle.blank : Bundle := ⟨.empty, .empty, [], [], [], .empty, none⟩

def Bundle.decode : σ → Except DecodeError Bundle :=
  readRecord "PlaybookBundle" [
    .allows "operations" (readMap Operation.decode) fun r v => { r with operations := v },
    .allows "requests" (readMap Request.decode) fun r v => { r with requests := v },
    .allows "before" (readList Stage.decode) fun r v => { r with before := v },
    .allows "after" (readList Stage.decode) fun r v => { r with after := v },
    .allows "authenticationDetails" (readList (readMap Credential.decode))
      fun r v => { r with credentialGroups := v },
    .allows "environments" (readMap EnvironmentDecl.decode)
      fun r v => { r with environments := v },
    .allows "runtimeConfiguration" (readOptional RuntimeConfiguration.decode)
      fun r v => { r with runtime := v }]
    .blank

/-! ## §7. Exchanges and credentials. -/

/-- An integer of 16 bits. -/
def readStatus (x : σ) : Except DecodeError Nat := do
  match ← Source.free x with
  | .number (.integer i) =>
    if 0 ≤ i ∧ i < UInt16.size then return i.toNat
    else throw (.misfit (.wrongType (.number (.integer i)) "u16"))
  | _ => throw (.misfit (.noAlternative "u16"))

def HttpRequest.decode : σ → Except DecodeError HttpRequest :=
  readRecord "HttpRequest" [
    .needs "method" readText fun r v => { r with method := v },
    .needs "url" readText fun r v => { r with url := v },
    .allows "headers" (readMap readText) fun r v => { r with headers := v },
    .allows "body" (readOptional readText) fun r v => { r with body := v }]
    ⟨"", "", .empty, none⟩

def HttpResponse.decode : σ → Except DecodeError HttpResponse :=
  readRecord "HttpResponse" [
    .needs "statusCode" readStatus fun r v => { r with status := v },
    .allows "headers" (readMap readText) fun r v => { r with headers := v },
    .allows "body" readText fun r v => { r with body := v }]
    ⟨0, .empty, ""⟩

/-- A reply, told apart by its member `kind`. -/
def Reply.decode (j : Json) : Except DecodeError Reply := do
  let (kind, content) ← match j with
    | .object members => match findEntry "kind" members with
      | some kind => pure (kind, Json.object (members.filter (·.1 != "kind")))
      | none => throw (.misfit (.missingMember "kind"))
    | .array (kind :: rest) => pure (kind, Json.array rest)
    | .array [] => throw (.misfit (.missingMember "kind"))
    | j => j.reject "internally tagged enum HttpReply"
  match ← readText kind with
  | "response" => return .response (← HttpResponse.decode content)
  | "mock" => return .mock
  | other => throw (.misfit (.unknownChoice other ["response", "mock"]))

def ResolvedCredential.decode : σ → Except DecodeError ResolvedCredential :=
  readRecord "ResolvedCredential" [
    .needs "credential" readText fun r v => { r with key := { r.key with credential := v } },
    .needs "method" readText fun r v => { r with key := { r.key with method := v } },
    .needs "value" readText fun r v => { r with value := v },
    .allows "scheme" (readOptional SecurityScheme.decode) fun r v => { r with scheme := v }]
    ⟨⟨"", ""⟩, "", none⟩

end ApiPlaybook
