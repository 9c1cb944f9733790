/-
  ApiPlaybook.OpenApi.Text
  ────────────────────────
  **THE TEXT OF AN API DESCRIPTION.**

  A text whose first character is a brace is read as JSON, any other as YAML
  that has a JSON form.
-/
import ApiPlaybook.Document
import ApiPlaybook.OpenApi.Reference
import ApiPlaybook.Yaml.Value

namespace ApiPlaybook

/-- Why a text is no description. -/
inductive ApiTextError where
  | json (e : SyntaxError)
  | yaml
deriving Inhabited

def ApiTextError.message : ApiTextError → String
  | .json e => "failed to parse OpenAPI as JSON: " ++ e.message
  | .yaml => "failed to parse OpenAPI as YAML:"

/-- Read the text of a description. -/
def ApiDocument.ofText (s : String) : Except ApiTextError ApiDocument :=
  match (trimStart s.toList).head? with
  | some '\x7b' => ((Json.parse s).map ApiDocument.mk).mapError .json
  | _ =>
    match Yaml.Value.ofText? s with
    | some v => (v.toJson.map ApiDocument.mk).mapError .json
    | none => .error .yaml

end ApiPlaybook
