/-
  ApiPlaybook.Main
  ────────────────
  **THE PROGRAM.**

  Reads the files that a command names, does what it says, and prints the
  result.
-/
import ApiPlaybook.CommandLine.Execution

namespace ApiPlaybook

/-- How the commands are used. -/
def usage : String :=
  "usage: playbook run BUNDLE --oas API (--operation ID [--scenario ID] | --request REF | --global before|after)
       playbook auth BUNDLE --oas API --credential NAME [--method NAME]
       playbook validate BUNDLE [--oas API]
       playbook --version
options of run: --global-blocks, --input KEY=VALUE
options of run and auth: --env-file FILE, --set KEY=VALUE, --secret KEY=VALUE, --server URL, --mock,
                         --timeout MS, --max-response-bytes N, --insecure
options of all: --format text|json, -q, --quiet"

/-- How the system words why a file cannot be read. -/
def readFailureText : IO.Error → String
  | .noFileOrDirectory .. => "No such file or directory (os error 2)"
  | .permissionDenied .. => "Permission denied (os error 13)"
  | .inappropriateType .. => "Is a directory (os error 21)"
  | .userError _ => "stream did not contain valid UTF-8"
  | e => e.toString

/-- The text of a file. -/
def fileText (path : String) : IO (Except String String) := do
  try return .ok (← IO.FS.readFile path)
  catch e => return .error (readFailureText e)

/-- The surroundings in which a command finds its files. -/
def surroundingsFor (command : Command) : IO Surroundings := do
  let texts ← command.paths.mapM fun path => return (path, ← fileText path)
  let server ← IO.getEnv "PLAYBOOK_SERVER"
  return ⟨fun path => (texts.lookup path).getD (.error "not read"), server⟩

/-- Print a result; gives the exit code. -/
def CommandResult.print (r : CommandResult) : IO UInt32 := do
  r.out.forM fun line => IO.println line
  r.err.forM fun line => IO.eprintln line
  return UInt32.ofNat r.code.number

end ApiPlaybook

open ApiPlaybook in
def main (args : List String) : IO UInt32 := do
  match Command.ofArguments? args with
  | none =>
    IO.eprintln usage
    return 2
  | some command => ((← surroundingsFor command).execute command).print
