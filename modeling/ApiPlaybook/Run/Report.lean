/-
  ApiPlaybook.Run.Report
  ──────────────────────
  **EVENTS AS JSON.**

  An event is written as an object with its tag under `event`; errors are
  written as their messages.
-/
import ApiPlaybook.Bundle.Encode
import ApiPlaybook.Run.Event

namespace ApiPlaybook

def FoundVariable.toJson (v : FoundVariable) : Json :=
  .ofMembers [("name", .string v.name), ("value", v.value), ("context", .string v.origin)]

def MissingVariable.toJson (v : MissingVariable) : Json :=
  .ofMembers [("name", .string v.name), ("location", .string v.location)]

/-- Members for the look-ups made. -/
def lookUpMembers (stack : ScopeStack) (found : List FoundVariable)
    (missing : List MissingVariable) : List (String × Json) :=
  [("stack", stack.toJson), ("found", .array (found.map FoundVariable.toJson)),
    ("missing", .array (missing.map MissingVariable.toJson))]

/-- What an event tells beside its tag. -/
def Event.members : Event → List (String × Json)
  | .playbookStarted name => [("name", .string name)]
  | .playbookAborted error => [("error", .string error.message)]
  | .playbookFinished => []
  | .requestStarted ref => [("ref", ref.toJson)]
  | .authStarted auth => [("name", .string auth)]
  | .authAborted error => [("error", .string error.message)]
  | .authFinished => []
  | .credentialFromCache auth value => [("name", .string auth), ("result", .string value)]
  | .credentialSubstituted auth value stack found missing =>
    [("name", .string auth), ("result", .string value)] ++ lookUpMembers stack found missing
  | .payloadSubstituted stack found missing => lookUpMembers stack found missing
  | .prepareFailed error => [("error", .string error.message)]
  | .requestPrepared request operation =>
    [("request", request.toJson)] ++ optionalMember "operationId" .string operation
  | .transportFailed error => [("error", .string error.message)]
  | .responseReceived reply => [("response", reply.toJson)]
  | .processingFailed error => [("error", .string error.message)]
  | .variablesAssigned scope => [("assignments", scope.toJson)]

def Event.toJson (e : Event) : Json := .ofMembers (("event", .string e.tag) :: e.members)

end ApiPlaybook
