/-
  ApiPlaybook.Document
  ────────────────────
  **DOCUMENTS IN EITHER FORMAT.**

  A document may be written in JSON or in YAML.  When the format is not given,
  the first character that is no blank tells which is tried first: a bracket or
  a brace for JSON.  The other format is tried when that fails, and if both
  fail the first failure is reported.
-/
import ApiPlaybook.Json.Reader
import ApiPlaybook.Yaml.Record

namespace ApiPlaybook

/-- A format of documents. -/
inductive Format where
  | json
  | yaml
deriving DecidableEq, Inhabited

/-- The format as it is shown. -/
def Format.name : Format → String
  | .json => "Json"
  | .yaml => "Yaml"

/-- Why a document was not read. -/
inductive DocumentError where
  | json (e : DecodeError)
  | yaml
deriving Inhabited

/-- The wording of a failure; what is wrong with a YAML document is not told. -/
def DocumentError.message : DocumentError → String
  | .json e => "failed to parse as JSON: " ++ e.message
  | .yaml => "failed to parse as YAML:"

/-- A reader for any kind of document. -/
abbrev Reader (α : Type) := ∀ (σ : Type) [Source σ], σ → Except DecodeError α

variable {α : Type}

/-- Read a JSON text. -/
def Reader.json (read : Reader α) (s : String) : Except DocumentError α :=
  (decodeText (read Draft) (JsonText.read s)).mapError .json

/-- Read a YAML text. -/
def Reader.yaml (read : Reader α) (s : String) : Except DocumentError α :=
  (Yaml.decodeDocument (read Yaml.Place) s).mapError fun _ => .yaml

/-- Read a text of the given format. -/
def Reader.text (read : Reader α) : Format → String → Except DocumentError α
  | .json, s => read.json s
  | .yaml, s => read.yaml s

/-- The format that is tried first. -/
def likelyFormat (s : String) : Format :=
  match trimStart s.toList with
  | '\x7b' :: _ => .json
  | '[' :: _ => .json
  | _ => .yaml

def Format.other : Format → Format
  | .json => .yaml
  | .yaml => .json

/-- Read a text of unknown format. -/
def Reader.anyText (read : Reader α) (s : String) : Except DocumentError (α × Format) :=
  let first := likelyFormat s
  match read.text first s with
  | .ok v => .ok (v, first)
  | .error e =>
    match read.text first.other s with
    | .ok v => .ok (v, first.other)
    | .error _ => .error e

end ApiPlaybook
