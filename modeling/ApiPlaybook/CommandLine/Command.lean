/-
  ApiPlaybook.CommandLine.Command
  ───────────────────────────────
  **COMMANDS.**

  There are three commands: to run an operation, a request or a global block of
  a bundle, to obtain one of its credentials, and to validate it.
-/
import ApiPlaybook.CommandLine.Argument

namespace ApiPlaybook

/-! ## §1. What a command is told. -/

/-- How results are shown. -/
inductive OutputFormat where
  | text
  /-- One JSON object on each line. -/
  | json
deriving DecidableEq, Inhabited

structure OutputChoice where
  format : OutputFormat
  /-- Nothing is shown. -/
  quiet : Bool
deriving DecidableEq, Inhabited

/-- Where the runtime values come from. -/
structure RuntimeSources where
  /-- A file with default values and secrets. -/
  file : Option String
  /-- Default values, each written `KEY=VALUE`. -/
  defaults : List String
  /-- Secrets, each written `KEY=VALUE`. -/
  secrets : List String
deriving DecidableEq, Inhabited

/-- How requests are sent. -/
structure TransportChoice where
  server : Option String
  /-- Nothing is sent. -/
  mock : Bool
  /-- In milliseconds. -/
  timeout : Nat
  maxResponseBytes : Nat
  /-- Invalid certificates are accepted. -/
  insecure : Bool
deriving DecidableEq, Inhabited

/-- What `run` and `auth` work with. -/
structure SessionSources where
  bundle : String
  api : String
  runtime : RuntimeSources
  transport : TransportChoice
deriving DecidableEq, Inhabited

inductive GlobalBlock where
  | before
  | after
deriving DecidableEq, Inhabited

/-- What is to be run; exactly one of operation, request and block should be
chosen. -/
structure TargetChoice where
  operation : Option String
  /-- A scenario of the operation; without it the first. -/
  scenario : Option String
  /-- A reference to a request, or an id alone. -/
  request : Option String
  block : Option GlobalBlock
  /-- Whether the global blocks are run around an operation or a request. -/
  globalBlocks : Bool
  /-- Variables for a request, each written `KEY=VALUE`. -/
  inputs : List String
deriving DecidableEq, Inhabited

inductive Command where
  | run (sources : SessionSources) (target : TargetChoice) (output : OutputChoice)
  | auth (sources : SessionSources) (credential : String) (method : Option String)
      (output : OutputChoice)
  | validate (bundle : String) (api : Option String) (output : OutputChoice)
  | version
deriving DecidableEq, Inhabited

/-! ## §2. Options. -/

namespace OptionDecl

def forOutput : List OptionDecl := [⟨"format", .once, none⟩, ⟨"quiet", .flag, some 'q'⟩]

def forSession : List OptionDecl :=
  [⟨"oas", .once, none⟩, ⟨"env-file", .once, none⟩, ⟨"set", .repeated, none⟩,
    ⟨"secret", .repeated, none⟩, ⟨"server", .once, none⟩, ⟨"mock", .flag, none⟩,
    ⟨"timeout", .once, none⟩, ⟨"max-response-bytes", .once, none⟩, ⟨"insecure", .flag, none⟩]

def forTarget : List OptionDecl :=
  [⟨"operation", .once, none⟩, ⟨"scenario", .once, none⟩, ⟨"request", .once, none⟩,
    ⟨"global", .once, none⟩, ⟨"global-blocks", .flag, none⟩, ⟨"input", .repeated, none⟩]

def forRun : List OptionDecl := forSession ++ forTarget ++ forOutput

def forAuth : List OptionDecl :=
  forSession ++ [⟨"credential", .once, none⟩, ⟨"method", .once, none⟩] ++ forOutput

def forValidate : List OptionDecl := ⟨"oas", .once, none⟩ :: forOutput

end OptionDecl

/-- The number that an option value stands for: digits, perhaps behind a plus
sign, of a number that fits into 64 bits. -/
def numberValue? (s : String) : Option Nat :=
  let digits := match s.toList with
    | '+' :: rest => rest
    | cs => cs
  if digits.isEmpty || !digits.all Char.isDigit then none
  else
    let n := digits.foldl (fun n c => 10 * n + (c.toNat - '0'.toNat)) 0
    if n < UInt64.size then some n else none

/-- The value of an option, read as `read` says; the default when it is not
given, and nothing when it cannot be read. -/
def readOption {α : Type} (args : List Argument) (name : String) (absent : α)
    (read : String → Option α) : Option α :=
  match optionValue? args name with
  | none => some absent
  | some s => read s

/-- A value that is not empty. -/
def nonempty? (s : String) : Option String := if s.isEmpty then none else some s

def OutputFormat.ofText? : String → Option OutputFormat
  | "text" => some .text
  | "json" => some .json
  | _ => none

def GlobalBlock.ofText? : String → Option GlobalBlock
  | "before" => some .before
  | "after" => some .after
  | _ => none

/-! ## §3. Commands from arguments. -/

def OutputChoice.ofArguments? (args : List Argument) : Option OutputChoice := do
  let format ← readOption args "format" .text OutputFormat.ofText?
  return ⟨format, isGiven args "quiet"⟩

def TransportChoice.ofArguments? (args : List Argument) : Option TransportChoice := do
  let timeout ← readOption args "timeout" 30000 numberValue?
  let maxResponseBytes ← readOption args "max-response-bytes" 10485760 numberValue?
  return ⟨optionValue? args "server", isGiven args "mock", timeout, maxResponseBytes,
    isGiven args "insecure"⟩

def SessionSources.ofArguments? (args : List Argument) : Option SessionSources := do
  let bundle ← onlyPositional? args
  let api ← optionValue? args "oas"
  let file ← readOption args "env-file" none fun s => (nonempty? s).map some
  let transport ← TransportChoice.ofArguments? args
  return ⟨bundle, api, ⟨file, optionValues args "set", optionValues args "secret"⟩, transport⟩

/-- A scenario can be named for an operation only. -/
def TargetChoice.ofArguments? (args : List Argument) : Option TargetChoice := do
  let operation := optionValue? args "operation"
  let scenario := optionValue? args "scenario"
  guard (scenario.isNone || operation.isSome)
  let block ← readOption args "global" none fun s => (GlobalBlock.ofText? s).map some
  return ⟨operation, scenario, optionValue? args "request", block, isGiven args "global-blocks",
    optionValues args "input"⟩

namespace Command

def runOf? (args : List Argument) : Option Command := do
  return .run (← SessionSources.ofArguments? args) (← TargetChoice.ofArguments? args)
    (← OutputChoice.ofArguments? args)

def authOf? (args : List Argument) : Option Command := do
  return .auth (← SessionSources.ofArguments? args) (← optionValue? args "credential")
    (optionValue? args "method") (← OutputChoice.ofArguments? args)

def validateOf? (args : List Argument) : Option Command := do
  return .validate (← onlyPositional? args) (optionValue? args "oas")
    (← OutputChoice.ofArguments? args)

/-- Whether the first argument asks for the version. -/
def asksForVersion (s : String) : Bool :=
  match ArgumentShape.ofText s with
  | .long name value => name == "version" && value.isNone
  | .short letters => letters.head? == some 'V'
  | _ => false

/-- The command that arguments mean. -/
def ofArguments? : List String → Option Command
  | "run" :: args => (understand OptionDecl.forRun args).bind runOf?
  | "auth" :: args => (understand OptionDecl.forAuth args).bind authOf?
  | "validate" :: args => (understand OptionDecl.forValidate args).bind validateOf?
  | s :: _ => if asksForVersion s then some .version else none
  | [] => none

end Command

end ApiPlaybook
