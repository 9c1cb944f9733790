/-
  ApiPlaybook.Run.Event
  ─────────────────────
  **WHAT A RUN REPORTS.**

  A run tells what it does as a sequence of events: playbooks, requests and
  credentials that are started and ended, values that were put in place,
  requests that were sent and what came back.  Five of the events report a
  failure.
-/
import ApiPlaybook.Extraction
import ApiPlaybook.Preparation
import ApiPlaybook.Template.Substitution

namespace ApiPlaybook

/-! ## §1. Failures. -/

/-- Playbooks are nested less deep than this. -/
def maxDepth : Nat := 5

/-- Why a playbook, a request or a credential failed. -/
inductive RunError where
  | tooDeep
  | noReference (stage : Nat)
  | requestNotFound (ref : RequestRef)
  | unknownCredential (name : String)
  | unknownMethod (key : CredentialKey)
  | acquisitionFailed (auth : String)
  | credentialVariablesMissing (auth : String) (names : String)
  | credentialsUnavailable (auths : List String)
  | variablesMissing (names : String)
  | build (error : BuildError)
  | unexpectedStatus (status : Nat) (expected : ResponseCode)
  | extraction (error : ExtractionError)
deriving Inhabited

def RunError.message : RunError → String
  | .tooDeep =>
    "maximum playbook depth of " ++ decimal maxDepth
      ++ " reached, credential acquisition is likely recursive"
  | .noReference stage =>
    "stage " ++ decimal stage ++ " has no request reference, inline requests are not supported"
  | .requestNotFound ref => "request " ++ singleQuoted ref.text ++ " not found"
  | .unknownCredential name => "credential " ++ singleQuoted name ++ " not found"
  | .unknownMethod key =>
    "method " ++ singleQuoted key.method ++ " not found in credential "
      ++ singleQuoted key.credential
  | .acquisitionFailed auth => "failed to acquire credential " ++ singleQuoted auth
  | .credentialVariablesMissing auth names =>
    "failed to substitute credential " ++ singleQuoted auth ++ ", missing variables: " ++ names
  | .credentialsUnavailable auths => "failed to obtain credentials: " ++ ", ".intercalate auths
  | .variablesMissing names => "failed to replace variables: " ++ names
  | .build error => error.message
  | .unexpectedStatus status expected =>
    "HTTP response code " ++ decimal status ++ " does not match expected " ++ expected.text
  | .extraction error => error.message

/-! ## §2. Events. -/

/-- An event of a run. -/
inductive Event where
  | playbookStarted (name : String)
  | playbookAborted (error : RunError)
  | playbookFinished
  | requestStarted (ref : RequestRef)
  | authStarted (auth : String)
  | authAborted (error : RunError)
  | authFinished
  | credentialFromCache (auth value : String)
  | credentialSubstituted (auth value : String) (stack : ScopeStack)
      (found : List FoundVariable) (missing : List MissingVariable)
  | payloadSubstituted (stack : ScopeStack) (found : List FoundVariable)
      (missing : List MissingVariable)
  | prepareFailed (error : RunError)
  | requestPrepared (request : HttpRequest) (operation : Option String)
  | transportFailed (error : TransportError)
  | responseReceived (reply : Reply)
  | processingFailed (error : RunError)
  | variablesAssigned (scope : Scope)
deriving Inhabited

namespace Event

/-- The name of the kind of an event. -/
def tag : Event → String
  | .playbookStarted _ => "playbook-started"
  | .playbookAborted _ => "playbook-aborted"
  | .playbookFinished => "playbook-finished"
  | .requestStarted _ => "request-started"
  | .authStarted _ => "auth-started"
  | .authAborted _ => "auth-aborted"
  | .authFinished => "auth-finished"
  | .credentialFromCache .. => "credential-retrieved-from-cache"
  | .credentialSubstituted .. => "credential-variables-substituted"
  | .payloadSubstituted .. => "payload-variables-substituted"
  | .prepareFailed _ => "http-request-prepare-error"
  | .requestPrepared .. => "http-request-prepared"
  | .transportFailed _ => "http-error-received"
  | .responseReceived _ => "http-response-received"
  | .processingFailed _ => "response-processing-error"
  | .variablesAssigned _ => "variables-assigned"

/-- Whether an event ends the stage, the credential or the playbook it is in. -/
def isFailure : Event → Bool
  | .playbookAborted _ | .authAborted _ | .prepareFailed _ | .transportFailed _
  | .processingFailed _ => true
  | _ => false

end Event

end ApiPlaybook
