/-
  ApiPlaybook.Warning
  ───────────────────
  **WARNINGS.**

  What goes wrong without ending a run is reported as a warning: a text with
  named details.  A computation carries the warnings it gives, in order.
-/
import ApiPlaybook.OpenApi.Reference
import ApiPlaybook.Text.Quoted

namespace ApiPlaybook

/-- Where a parameter of an operation is put. -/
inductive ParameterLocation where
  | path
  | query
  | header
  | cookie
deriving DecidableEq, Inhabited

namespace ParameterLocation

/-- The locations in the order in which parameters are listed. -/
def all : List ParameterLocation := [.path, .query, .header, .cookie]

def word : ParameterLocation → String
  | .path => "path"
  | .query => "query"
  | .header => "header"
  | .cookie => "cookie"

/-- The location as a warning shows it. -/
def title : ParameterLocation → String
  | .path => "Path"
  | .query => "Query"
  | .header => "Header"
  | .cookie => "Cookie"

end ParameterLocation

/-- Whose parameters a list holds. -/
inductive ParameterLevel where
  | pathItem
  | operation
deriving DecidableEq, Inhabited

def ParameterLevel.text : ParameterLevel → String
  | .pathItem => "pathItem.parameters"
  | .operation => "operation.parameters"

/-- Why an entry is no parameter. -/
inductive EntryFault where
  | notParameter
  | badRef (error : RefError)
deriving DecidableEq, Inhabited

def EntryFault.message : EntryFault → String
  | .notParameter => "entry is not a Parameter Object"
  | .badRef error => error.message

/-- A warning. -/
inductive Warning where
  | badEntry (operation : String) (level : ParameterLevel) (fault : EntryFault)
  | badScheme (scheme : String) (error : RefError)
  | noValue (operation parameter : String) (location : ParameterLocation)
  /-- A credential that no scheme says how to carry. -/
  | noScheme (auth : String)
  | missingRuntimeValues (names : List String)
  | depthLimit (playbook : String) (depth : Nat)
  | halted (failed : String) (skipped : List String)
deriving DecidableEq, Inhabited

namespace Warning

def message : Warning → String
  | .badEntry _ level fault => level.text ++ " " ++ fault.message
  | .badScheme _ error => "security scheme " ++ error.message
  | .noValue .. => "required parameter has no value"
  | .noScheme _ => "no security scheme known for credential, not applied"
  | .missingRuntimeValues _ => "required environment variables have no value"
  | .depthLimit .. => "playbook depth limit reached"
  | .halted .. => "run halted, remaining playbooks skipped"

/-- The named details of a warning. -/
def details : Warning → List (String × String)
  | .badEntry operation _ _ => [("operation_id", operation)]
  | .badScheme scheme _ => [("scheme", scheme)]
  | .noValue operation parameter location =>
    [("operation_id", operation), ("parameter", parameter), ("location", location.title)]
  | .noScheme auth => [("auth", auth)]
  | .missingRuntimeValues names => [("missing", quotedTexts names)]
  | .depthLimit playbook depth => [("playbook", playbook), ("depth", decimal depth)]
  | .halted failed skipped => [("failed", failed), ("skipped", quotedTexts skipped)]

end Warning

/-- A value with the warnings given for it. -/
structure Warned (α : Type) where
  value : α
  warnings : List Warning
deriving Inhabited

namespace Warned

instance : Monad Warned where
  pure v := ⟨v, []⟩
  bind w f := ⟨(f w.value).value, w.warnings ++ (f w.value).warnings⟩

/-- Give a warning. -/
def warn (w : Warning) : Warned Unit := ⟨(), [w]⟩

end Warned

end ApiPlaybook
