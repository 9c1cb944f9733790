/-
  ApiPlaybook.Run.Line
  ────────────────────
  **EVENTS AS LINES OF TEXT.**

  An event is shown on one line, indented by the number of playbooks it is in.
  That number is followed from the events alone.  Events about a credential do
  not show its value; of a request its method and URL are shown.
-/
import ApiPlaybook.Run.Event

namespace ApiPlaybook

/-! ## §1. The depth of an event. -/

/-- How many playbooks are open. -/
structure Nesting where
  level : Nat
deriving DecidableEq, Inhabited

namespace Nesting

/-- The depth at which an event is shown, and the playbooks open after it.  A
stage that fails ends its playbook without an event for that. -/
def depthOf (n : Nesting) : Event → Nat × Nesting
  | .playbookStarted _ => (n.level, ⟨n.level + 1⟩)
  | .playbookFinished | .playbookAborted _ => (n.level - 1, ⟨n.level - 1⟩)
  | .prepareFailed _ | .transportFailed _ | .processingFailed _ => (n.level, ⟨n.level - 1⟩)
  | _ => (n.level, n)

/-- The depths of events. -/
def depths (n : Nesting) : List Event → List Nat
  | [] => []
  | e :: rest => (n.depthOf e).1 :: (n.depthOf e).2.depths rest

end Nesting

/-! ## §2. The line of an event. -/

/-- The names without a value. -/
def missingText (missing : List MissingVariable) : String :=
  if missing.isEmpty then "" else " (missing: " ++ missingNamesText missing ++ ")"

/-- What a line tells behind the tag. -/
def Event.lineText : Event → String
  | .playbookStarted name => " " ++ name
  | .requestStarted ref => " " ++ ref.text
  | .authStarted auth => " " ++ auth
  | .credentialFromCache auth _ => " " ++ auth
  | .credentialSubstituted auth _ _ _ missing => " " ++ auth ++ missingText missing
  | .payloadSubstituted _ _ missing => missingText missing
  | .requestPrepared request _ => " " ++ request.method ++ " " ++ request.url
  | .responseReceived (.response r) => " " ++ decimal r.status
  | .responseReceived .mock => " (mock)"
  | .variablesAssigned scope =>
    if scope.assignments.isEmpty then ""
    else " " ++ ", ".intercalate (scope.assignments.map (·.name))
  | .playbookAborted error => ": " ++ error.message
  | .authAborted error => ": " ++ error.message
  | .prepareFailed error => ": " ++ error.message
  | .processingFailed error => ": " ++ error.message
  | .transportFailed error => ": " ++ error.message
  | .playbookFinished | .authFinished => ""

/-- An event on one line. -/
def Event.line (e : Event) : String := e.tag ++ e.lineText

/-- The line with its indentation. -/
def Event.indentedLine (depth : Nat) (e : Event) : String :=
  String.ofList (List.replicate (2 * depth) ' ') ++ e.line

/-- The lines of a trace. -/
def traceLines (trace : List Event) : List String :=
  trace.zipWith (fun e depth => e.indentedLine depth) ((Nesting.mk 0).depths trace)

end ApiPlaybook
