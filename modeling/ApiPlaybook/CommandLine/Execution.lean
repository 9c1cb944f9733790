/-
  ApiPlaybook.CommandLine.Execution
  ─────────────────────────────────
  **WHAT COMMANDS DO.**

  `run` shows the trace of a run and then the value of each variable that it
  set; it fails when an event of the trace reports a failure.  `auth` shows the
  trace of obtaining a credential and then its value.  `validate` shows what is
  wrong with a bundle, and which of its operations an API description does not
  have.
-/
import ApiPlaybook.Bundle.Encode
import ApiPlaybook.CommandLine.Target
import ApiPlaybook.Run.Line
import ApiPlaybook.Run.Report

namespace ApiPlaybook

/-! ## §1. Running. -/

/-- The lines for a trace. -/
def OutputChoice.traceLines (o : OutputChoice) (trace : List Event) : List String :=
  o.lines (ApiPlaybook.traceLines trace) (trace.map Event.toJson)

/-- What is told at the end of a run. -/
structure RunSummary where
  failed : Bool
  /-- The latest value of each variable that was set. -/
  vars : NameMap Json

namespace RunSummary

def ofRan (ran : Ran ScopeStack) : RunSummary :=
  ⟨ran.trace.any (·.isFailure), ran.value.latestValues⟩

def toJson (s : RunSummary) : Json :=
  .ofMembers [("status", .string (if s.failed then "failed" else "succeeded")),
    ("variables", .ofNameMap s.vars)]

def code (s : RunSummary) : ExitCode := if s.failed then .runFailed else .success

/-- The text of the summary on the first output. -/
def outText (s : RunSummary) : List String :=
  if s.failed then []
  else ["ok: run succeeded, " ++ decimal s.vars.size ++ " variables assigned"]

/-- The text of the summary on the second output. -/
def errText (s : RunSummary) : List String := if s.failed then ["error: run failed"] else []

end RunSummary

/-- Run a target. -/
def Session.runTarget (s : Session) (target : Target) (globalBlocks : Bool) : Ran ScopeStack :=
  (s.setup.runAll s.values target.inputScopes
    (target.playbooks s.setup.bundle globalBlocks)).run s.transport []

/-- The result of a run. -/
def OutputChoice.runResult (o : OutputChoice) (ran : Ran ScopeStack) : CommandResult :=
  let summary := RunSummary.ofRan ran
  ⟨summary.code, o.traceLines ran.trace ++ o.lines summary.outText [summary.toJson],
    o.lines summary.errText []⟩

/-! ## §2. Credentials. -/

/-- The reference to a method of a credential. -/
def authText (credential : String) : Option String → String
  | some method => credential ++ "/" ++ method
  | none => credential

/-- Obtain one credential. -/
def Session.obtain (s : Session) (ref : String) : Ran (Option AuthResult × CredentialCache) :=
  let scope := (s.setup.bundle.importEnvironment s.values).scope
  (s.setup.preview .empty [ref] [scope] 0).run s.transport []

def ResolvedCredential.line (c : ResolvedCredential) : String :=
  "ok: " ++ c.key.credential ++ "/" ++ c.key.method ++ " resolved: " ++ c.value

/-- The result of obtaining a credential. -/
def OutputChoice.authResult (o : OutputChoice) (ref : String)
    (ran : Ran (Option AuthResult × CredentialCache)) : CommandResult :=
  let trace := o.traceLines ran.trace
  match ran.value.1.bind fun found => found.get? ref with
  | some credential => ⟨.success, trace ++ o.lines [credential.line] [credential.toJson], []⟩
  | none =>
    let e : CommandError := .unresolvedCredential ref
    ⟨e.code, trace, o.errorLines e.message⟩

/-! ## §3. Validation. -/

/-- An operation of a bundle that an API description does not have. -/
structure AbsentOperation where
  key : String
  operationId : String
deriving DecidableEq, Inhabited

def AbsentOperation.text (a : AbsentOperation) : String :=
  "$.operations." ++ a.key ++ ".request.operationId: operation " ++ singleQuoted a.operationId
    ++ " not found in the OpenAPI document"

/-- The operations of a bundle that a description does not have. -/
def Bundle.absentOperations (b : Bundle) (api : ApiDocument) : List AbsentOperation :=
  b.operations.entries.filterMap fun (key, o) =>
    o.request.operationId.bind fun id =>
      if (api.operation? id).value.isNone then some ⟨key, id⟩ else none

/-- What is wrong with a bundle, also with respect to a description. -/
structure Findings where
  violations : List Violation
  absent : List AbsentOperation
deriving DecidableEq, Inhabited

namespace Findings

def ofBundle (b : Bundle) (api : Option ApiDocument) : Findings :=
  ⟨b.violations, (api.map b.absentOperations).getD []⟩

/-- One line for each. -/
def texts (f : Findings) : List String :=
  f.violations.map Violation.text ++ f.absent.map AbsentOperation.text

/-- Nothing was found. -/
def areNone (f : Findings) : Bool := f.violations.isEmpty && f.absent.isEmpty

def toJson (f : Findings) (format : Format) : Json :=
  .ofMembers ([("valid", .bool f.areNone), ("format", .string format.name)]
    ++ if f.areNone then [] else [("errors", .array (f.texts.map .string))])

def code (f : Findings) : ExitCode := if f.areNone then .success else .invalid

/-- The text on the first output. -/
def outText (f : Findings) (format : Format) : List String :=
  if f.areNone then ["ok: valid playbook bundle (" ++ format.name ++ ")"] else []

/-- The text on the second output. -/
def errText (f : Findings) : List String :=
  if f.areNone then [] else "error: validation failed" :: f.texts.map ("- " ++ ·)

end Findings

/-- What is found in a bundle, and its format. -/
def Surroundings.findings (s : Surroundings) (path : String) (source : Option String) :
    Except CommandError (Findings × Format) := do
  let (bundle, format) ← s.bundleOf path
  let api ← source.mapM s.apiOf
  return (.ofBundle bundle api, format)

/-- The result of a validation. -/
def OutputChoice.validationResult (o : OutputChoice) (f : Findings) (format : Format) :
    CommandResult :=
  ⟨f.code, o.lines (f.outText format) [f.toJson format], o.lines f.errText []⟩

/-! ## §4. Commands. -/

/-- The program and its version. -/
def versionLine : String := "playbook 0.1.0"

/-- The result, or the failure shown as the output choice says. -/
def OutputChoice.resultOf (o : OutputChoice) : Except CommandError CommandResult → CommandResult
  | .ok result => result
  | .error e => e.result o

namespace Surroundings

def run (s : Surroundings) (sources : SessionSources) (choice : TargetChoice) (o : OutputChoice) :
    Except CommandError CommandResult := do
  let session ← s.session sources
  let target ← (choice.target session.setup.bundle).mapError .target
  return o.runResult (session.runTarget target choice.globalBlocks)

def auth (s : Surroundings) (sources : SessionSources) (ref : String) (o : OutputChoice) :
    Except CommandError CommandResult := do
  let session ← s.session sources
  return o.authResult ref (session.obtain ref)

def validate (s : Surroundings) (path : String) (source : Option String) (o : OutputChoice) :
    Except CommandError CommandResult := do
  let (findings, format) ← s.findings path source
  return o.validationResult findings format

/-- Do what a command says. -/
def execute (s : Surroundings) : Command → CommandResult
  | .run sources target output => output.resultOf (s.run sources target output)
  | .auth sources credential method output =>
    output.resultOf (s.auth sources (authText credential method) output)
  | .validate path source output => output.resultOf (s.validate path source output)
  | .version => ⟨.success, [versionLine], []⟩

end Surroundings

/-! ## §5. Files. -/

/-- The files that a session reads. -/
def SessionSources.paths (s : SessionSources) : List String :=
  [s.bundle, s.api] ++ s.runtime.file.toList

/-- The files that a command may read. -/
def Command.paths : Command → List String
  | .run sources _ _ => sources.paths
  | .auth sources _ _ _ => sources.paths
  | .validate path source _ => path :: source.toList
  | .version => []

end ApiPlaybook
