/-
  ApiPlaybook.Run.Stage
  ─────────────────────
  **STAGES.**

  A stage obtains the credentials of its request, puts the values of variables
  in place, sends the request and sets variables from the answer: first by the
  rules of the request, then by its own.
-/
import ApiPlaybook.Run.Auth

namespace ApiPlaybook

/-! ## §1. Values put in place. -/

/-- A request of a stage with all values in place. -/
structure Payload where
  /-- The scopes in which the values were looked up. -/
  stack : ScopeStack
  template : Template
  found : List FoundVariable
  missing : List MissingVariable

/-- The scope of a stage's own variables is called by this name. -/
def stageScopeId : String := "stage-environment"

/-- The scope of a request's own variables is called by this name. -/
def requestScopeId : String := "request-environment"

/-- Put values in place: the variables of the stage are filled in from the
scopes around it, those of the request from these too, and the template from
all of them. -/
def Stage.payload (s : Stage) (request : Request) (outer : ScopeStack) : Payload :=
  let stage := substituteScope stageScopeId s.vars outer
  let own := substituteScope requestScopeId request.vars (outer ++ [stage.value])
  let stack := outer ++ [stage.value] ++ [own.value]
  let filled := substituteTemplate request.template stack
  ⟨stack, filled.value, stage.found ++ own.found ++ filled.found,
    stage.missing ++ own.missing ++ filled.missing⟩

/-! ## §2. Parts of a stage. -/

namespace Setup

/-- The request that a stage refers to. -/
def stageRequest (c : Setup) (index : Nat) (s : Stage) : Except RunError (RequestRef × Request) :=
  match s.ref with
  | none => .error (.noReference index)
  | some ref =>
    match c.bundle.request? ref with
    | none => .error (.requestNotFound ref)
    | some request => .ok (ref, request)

/-- The credentials of a request; free requests carry none. -/
def credentials (c : Setup) (nested : Runner) (request : Request) (outer : ScopeStack) :
    Step AuthResult :=
  if request.isExternal then return .empty
  else (c.resolveAll nested outer request.auth .empty).orFail
    (.prepareFailed (.credentialsUnavailable request.auth))

/-- The request to send. -/
def prepare (c : Setup) (request : Request) (template : Template) (credentials : AuthResult) :
    Warned (Except BuildError HttpRequest) :=
  match request.operationId with
  | some id => prepareOperation c.api c.server id template credentials
  | none => return prepareFree template

end Setup

/-- Whether a reply is one that a stage expects; a mock reply always is. -/
def Stage.unexpected? (s : Stage) (request : Request) : Reply → Option RunError
  | .mock => none
  | .response r =>
    let expected := s.expected.getD request.defaultResponse
    if expected.admits r.status then none else some (.unexpectedStatus r.status expected)

/-- Set variables by rules. -/
def assignVariables (id : String) (rules : Responses) (request : HttpRequest) (reply : Reply) :
    Step Scope :=
  match rules.extract id request reply with
  | .error e => Step.fail (.processingFailed (.extraction e))
  | .ok scope => do
    Step.report (.variablesAssigned scope)
    return scope

/-- The name of the scope that a stage sets by its own rules. -/
def stageId (playbook : String) (index : Nat) : String :=
  "playbook-" ++ playbook ++ "-step-" ++ decimal index

/-- The name of the scope that a stage sets by the rules of its request. -/
def stageRequestId (playbook : String) (index : Nat) : String := stageId playbook index ++ "-request"

/-- Send a request and report what came back. -/
def exchange (request : HttpRequest) (operation : Option String) : Step Reply := do
  Step.report (.requestPrepared request operation)
  match ← Step.send request with
  | .error e => Step.fail (.transportFailed e)
  | .ok reply =>
    Step.report (.responseReceived reply)
    return reply

/-! ## §3. A stage. -/

/-- Run a stage of a playbook in the scopes around it; it gives the scopes that
it sets. -/
def Setup.stage (c : Setup) (nested : Runner) (playbook : String) (index : Nat) (s : Stage)
    (outer : ScopeStack) : Step ScopeStack := do
  match c.stageRequest index s with
  | .error e => Step.fail (.playbookAborted e)
  | .ok (ref, request) =>
    Step.report (.requestStarted ref)
    let credentials ← c.credentials nested request outer
    -- the scopes of the acquisition are gone; only the credentials are left of it
    let payload := s.payload request outer
    Step.report (.payloadSubstituted payload.stack payload.found payload.missing)
    if !payload.missing.isEmpty then
      Step.fail (.prepareFailed (.variablesMissing (missingNamesText payload.missing)))
    match ← Step.ofCourse (.ofWarned (c.prepare request payload.template credentials)) with
    | .error e => Step.fail (.prepareFailed (.build e))
    | .ok http =>
      let reply ← exchange http request.operationId
      match s.unexpected? request reply with
      | some e => Step.fail (.processingFailed e)
      | none =>
        -- the scope of the stage's own rules is the inner one of the two
        let first ← assignVariables (stageRequestId playbook index) request.responses http reply
        let second ← assignVariables (stageId playbook index) s.responses http reply
        return [first, second]

end ApiPlaybook
