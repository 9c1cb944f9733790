/-
  ApiPlaybook.CommandLine.Session
  ───────────────────────────────
  **WHAT A COMMAND WORKS WITH.**

  The bundle, the runtime values and the API description are read from files,
  in this order, and the first that fails ends the command.  Runtime values on
  the command line go before those of the file.  The server is the one of the
  command line, or the one that the surroundings name, or none, and then each
  operation is asked at its own.  Where nothing is sent and the description
  names no server either, a local one stands in.
-/
import ApiPlaybook.Bundle.Text
import ApiPlaybook.CommandLine.Result
import ApiPlaybook.OpenApi.Operation
import ApiPlaybook.Run.Step

namespace ApiPlaybook

/-- What a command finds around it. -/
structure Surroundings where
  /-- The text of a file, or why it cannot be read. -/
  readFile : String → Except String String
  /-- The server that the variable `PLAYBOOK_SERVER` names. -/
  server : Option String

/-- What is needed to run. -/
structure Session where
  setup : Setup
  values : RuntimeValues
  transport : Transport

/-! ## §1. Files. -/

namespace Surroundings

/-- The bundle of a file, and its format. -/
def bundleOf (s : Surroundings) (path : String) : Except CommandError (Bundle × Format) := do
  let text ← (s.readFile path).mapError (.unreadable path)
  (Bundle.ofText none text).mapError .badBundle

/-- The bundle of a file, which must be valid. -/
def validBundleOf (s : Surroundings) (path : String) : Except CommandError Bundle := do
  let (bundle, _) ← s.bundleOf path
  if bundle.IsValid then return bundle else throw (.invalidBundle bundle.violations)

/-- Whether a source is an address on the network and no file. -/
def onNetwork (source : String) : Bool :=
  "http://".toList.isPrefixOf source.toList || "https://".toList.isPrefixOf source.toList

/-- The text of an API description. -/
def apiText (s : Surroundings) (source : String) : Except ApiSourceError String :=
  if onNetwork source then .error (.unreachable source)
  else (s.readFile source).mapError .unreadable

/-- The API description of a source. -/
def apiOf (s : Surroundings) (source : String) : Except CommandError ApiDocument :=
  ((s.apiText source).bind fun text => (ApiDocument.ofText text).mapError .badText).mapError
    (.badApi source)

/-- The runtime values of a file, if one is named. -/
def runtimeFile (s : Surroundings) : Option String → Except CommandError RuntimeValues
  | none => .ok ⟨.empty, .empty⟩
  | some path => do
    let text ← (s.readFile path).mapError (.unreadable path)
    (RuntimeValues.ofText text).mapError (.badRuntimeFile path)

end Surroundings

/-! ## §2. Values on the command line. -/

/-- The name and the value of `KEY=VALUE`; the value stands behind the first
`=`, and the name is not empty. -/
def readPair? (s : String) : Option (String × Json) :=
  match splitOnce s '=' with
  | some (name, value) => if name.isEmpty then none else some (name, .string value)
  | none => none

/-- Read pairs; `bad` says what is wrong when a text is none. -/
def readPairs {ε : Type} (bad : String → ε) (texts : List String) :
    Except ε (List (String × Json)) :=
  texts.mapM fun s => match readPair? s with
    | some pair => .ok pair
    | none => .error (bad s)

/-- Further values put over those that are there. -/
def RuntimeValues.override (values : RuntimeValues) (defaults secrets : List (String × Json)) :
    RuntimeValues :=
  ⟨values.defaults.union (.ofList defaults), values.secrets.union (.ofList secrets)⟩

/-- The runtime values of all sources. -/
def Surroundings.runtimeValues (s : Surroundings) (r : RuntimeSources) :
    Except CommandError RuntimeValues := do
  let values ← s.runtimeFile r.file
  let defaults ← readPairs .badRuntimeValue r.defaults
  let secrets ← readPairs .badRuntimeValue r.secrets
  return values.override defaults secrets

/-! ## §3. Server and transport. -/

/-- The server that stands in where nothing is sent. -/
def localServer : String := "http://localhost"

/-- The server to ask, given those of the command line and the surroundings. -/
def chooseServer (mock : Bool) (given surrounding : Option String) (api : ApiDocument) : String :=
  let server := (given.or surrounding).getD ""
  if mock && isBlankText server && api.defaultServer?.isNone then localServer else server

/-- A transport without a network. -/
def Transport.offline : Transport := fun _ request =>
  .error (.network ("error sending request for url (" ++ request.url ++ ")"))

def TransportChoice.transport (t : TransportChoice) : Transport :=
  if t.mock then .mock else .offline

/-- Get everything ready. -/
def Surroundings.session (s : Surroundings) (c : SessionSources) :
    Except CommandError Session := do
  let bundle ← s.validBundleOf c.bundle
  let values ← s.runtimeValues c.runtime
  let api ← s.apiOf c.api
  let server := chooseServer c.transport.mock c.transport.server s.server api
  return ⟨⟨bundle, api, server⟩, values, c.transport.transport⟩

end ApiPlaybook
