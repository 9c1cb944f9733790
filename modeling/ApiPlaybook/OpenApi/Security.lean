/-
  ApiPlaybook.OpenApi.Security
  ────────────────────────────
  **SECURITY SCHEMES OF AN API.**

  A description declares how credentials are carried, under the components or,
  in older descriptions, under the security definitions.
-/
import ApiPlaybook.Bundle.Basic
import ApiPlaybook.Warning

namespace ApiPlaybook

/-- The kind of scheme that an object describes. -/
def SchemeKind.ofJson? (j : Json) : Option SchemeKind := do
  match ← (j.member? "type").bind Json.asString? with
  | "apiKey" => some .apiKey
  | "basic" => some .basic
  | "oauth2" => some .oauth2
  | "openIdConnect" => some .openIdConnect
  | "http" =>
    match ((j.member? "scheme").bind Json.asString?).map lowerAscii with
    | some "basic" => some .basic
    | some "bearer" => some .bearer
    | _ => none
  | _ => none

def KeyLocation.ofText? : String → Option KeyLocation
  | "header" => some .header
  | "query" => some .query
  | "cookie" => some .cookie
  | _ => none

/-- The scheme that an object describes. -/
def SecurityScheme.ofJson? (j : Json) : Option SecurityScheme := do
  let kind ← SchemeKind.ofJson? j
  return ⟨kind, ((j.member? "in").bind Json.asString?).bind KeyLocation.ofText?,
    (j.member? "name").bind Json.asString?⟩

namespace ApiDocument

/-- What is declared under the name of a scheme. -/
def declaredScheme? (d : ApiDocument) (name : String) : Option Json :=
  (((d.content.member? "components").bind (·.member? "securitySchemes")).bind (·.member? name)).or
    ((d.content.member? "securityDefinitions").bind (·.member? name))

/-- The scheme of a name. -/
def securityScheme? (d : ApiDocument) (name : String) : Warned (Option SecurityScheme) :=
  match d.declaredScheme? name with
  | none => return none
  | some declared =>
    match d.deref declared with
    | .ok j => return SecurityScheme.ofJson? j
    | .error e => do
      Warned.warn (.badScheme name e)
      return none

end ApiDocument

end ApiPlaybook
