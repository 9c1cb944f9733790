/-
  ApiPlaybook.CommandLine.Result
  ──────────────────────────────
  **RESULTS OF COMMANDS.**

  A command prints lines on its two outputs and leaves an exit code.  What went
  wrong before anything was run has a code for its kind: a bundle or target
  that makes no sense, a run that failed, or surroundings that do not work.
-/
import ApiPlaybook.Bundle.Validation
import ApiPlaybook.CommandLine.Command
import ApiPlaybook.Json.Printer
import ApiPlaybook.OpenApi.Text

namespace ApiPlaybook

/-! ## §1. Exit codes. -/

inductive ExitCode where
  | success
  | invalid
  | runFailed
  | unavailable
deriving DecidableEq, Inhabited

def ExitCode.number : ExitCode → Nat
  | .success => 0
  | .invalid => 2
  | .runFailed => 3
  | .unavailable => 4

/-- What a command prints and the code it leaves. -/
structure CommandResult where
  code : ExitCode
  out : List String
  err : List String
deriving DecidableEq, Inhabited

/-! ## §2. Failures. -/

/-- Why an API description could not be had. -/
inductive ApiSourceError where
  | unreadable (reason : String)
  /-- It is kept on the network, which is not there. -/
  | unreachable (url : String)
  | badText (e : ApiTextError)
deriving Inhabited

def ApiSourceError.message : ApiSourceError → String
  | .unreadable reason => "read file: " ++ reason
  | .unreachable url => "fetch: error sending request for url (" ++ url ++ ")"
  | .badText e => e.message

/-- Why there is nothing to run. -/
inductive TargetError where
  | notOne
  | unknownOperation (id : String)
  | unknownScenario (operation id : String)
  | noScenarios (operation : String)
  | unknownRequest (ref : RequestRef)
  | badInput (text : String)
deriving DecidableEq, Inhabited

/-- The wording for a text that should be a pair. -/
def badPairMessage (text : String) : String := "expected KEY=VALUE, got " ++ singleQuoted text

def TargetError.message : TargetError → String
  | .notOne => "exactly one of --operation, --request or --global is required"
  | .unknownOperation id => "operation " ++ singleQuoted id ++ " not found"
  | .unknownScenario operation id =>
    "scenario " ++ singleQuoted id ++ " not found in operation " ++ singleQuoted operation
  | .noScenarios operation => "operation " ++ singleQuoted operation ++ " has no scenarios"
  | .unknownRequest ref => "request " ++ singleQuoted ref.text ++ " not found"
  | .badInput text => badPairMessage text

/-- Why a command failed. -/
inductive CommandError where
  | unreadable (path reason : String)
  | badBundle (e : DocumentError)
  | invalidBundle (vs : List Violation)
  | badRuntimeFile (path : String) (e : DocumentError)
  | badRuntimeValue (text : String)
  | badApi (source : String) (e : ApiSourceError)
  | target (e : TargetError)
  | unresolvedCredential (ref : String)
deriving Inhabited

def CommandError.message : CommandError → String
  | .unreadable path reason => "failed to read " ++ path ++ ": " ++ reason
  | .badBundle e => e.message
  | .invalidBundle vs => violationsMessage vs.length
  | .badRuntimeFile path e => "invalid environment file " ++ path ++ ": " ++ e.message
  | .badRuntimeValue text => badPairMessage text
  | .badApi source e => "failed to load OpenAPI document " ++ source ++ ": " ++ e.message
  | .target e => e.message
  | .unresolvedCredential ref => "credential " ++ singleQuoted ref ++ " could not be resolved"

def CommandError.code : CommandError → ExitCode
  | .badBundle _ | .invalidBundle _ | .target _ => .invalid
  | .unresolvedCredential _ => .runFailed
  | .unreadable .. | .badRuntimeFile .. | .badRuntimeValue _ | .badApi .. => .unavailable

/-! ## §3. What is shown. -/

namespace OutputChoice

/-- The lines to show, given in both formats. -/
def lines (o : OutputChoice) (text : List String) (json : List Json) : List String :=
  if o.quiet then []
  else match o.format with
    | .text => text
    | .json => json.map Json.text

/-- The lines for a message about a failure. -/
def errorLines (o : OutputChoice) (message : String) : List String :=
  o.lines ["error: " ++ message] [.ofMembers [("error", .string message)]]

/-- Lines that are the same in both formats. -/
def remarks (o : OutputChoice) (text : List String) : List String :=
  if o.quiet then [] else text

end OutputChoice

/-- What is told beside the message: what is wrong with an invalid bundle. -/
def CommandError.details : CommandError → List String
  | .invalidBundle vs => vs.map fun v => "- " ++ v.text
  | _ => []

/-- The result of a command that failed before it printed anything. -/
def CommandError.result (e : CommandError) (o : OutputChoice) : CommandResult :=
  ⟨e.code, [], o.errorLines e.message ++ o.remarks e.details⟩

end ApiPlaybook
