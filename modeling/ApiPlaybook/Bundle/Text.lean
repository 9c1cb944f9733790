/-
  ApiPlaybook.Bundle.Text
  ───────────────────────
  **BUNDLES AND RUNTIME VALUES FROM TEXT.**

  Both may be written in JSON or in YAML (see `ApiPlaybook.Document`).
-/
import ApiPlaybook.Bundle.Decode
import ApiPlaybook.Document

namespace ApiPlaybook

/-- Read the text of a document, of the given format if there is one. -/
def Reader.ofText {α : Type} (read : Reader α) :
    Option Format → String → Except DocumentError (α × Format)
  | some format, s => (read.text format s).map fun v => (v, format)
  | none, s => read.anyText s

/-- Read the text of a bundle; tells also which format it has. -/
def Bundle.ofText (format : Option Format) (s : String) : Except DocumentError (Bundle × Format) :=
  Reader.ofText (fun _ => Bundle.decode) format s

/-- Read the text of runtime values, in either format. -/
def RuntimeValues.ofText (s : String) : Except DocumentError RuntimeValues :=
  (Reader.ofText (fun _ => RuntimeValues.decode) none s).map (·.1)

end ApiPlaybook
