/-
  ApiPlaybook.Environment
  ───────────────────────
  **RUNTIME VALUES FOR DECLARED VARIABLES.**

  A playbook declares which runtime values it imports and under which names it
  uses them.  A secret goes before a default value of the runtime, and that
  before the default of the declaration, which counts for optional variables
  only.  Required variables without a runtime value are reported.
-/
import ApiPlaybook.Scope

namespace ApiPlaybook

/-- An imported variable. -/
structure ImportedVariable where
  /-- The name of the runtime value. -/
  runtimeName : String
  required : Bool
  default : Option Json
deriving Inhabited, BEq

/-- The variables that a playbook imports, by the names it uses. -/
structure EnvironmentDecl where
  imports : NameMap ImportedVariable
deriving Inhabited, BEq

/-- The values that the host supplies. -/
structure RuntimeValues where
  defaults : NameMap Json
  secrets : NameMap Json
deriving Inhabited, BEq

/-- The scope of a declared environment and the runtime names of the required
variables without a value. -/
structure ImportedScope where
  scope : Scope
  missing : List String

namespace RuntimeValues

/-- The runtime value of a name. -/
def value? (values : RuntimeValues) (name : String) : Option Json :=
  (values.secrets.get? name).or (values.defaults.get? name)

end RuntimeValues

/-- The value of an imported variable. -/
def ImportedVariable.value? (v : ImportedVariable) (values : RuntimeValues) : Option Json :=
  (values.value? v.runtimeName).or (if v.required then none else v.default)

namespace EnvironmentDecl

/-- The scope of imported variables is called by this name. -/
def scopeId : String := "environment"

/-- The variables that have a value. -/
def bindings (decl : EnvironmentDecl) (values : RuntimeValues) : List (String × Json) :=
  decl.imports.entries.filterMap fun (name, v) => (v.value? values).map fun j => (name, j)

/-- The runtime names of the required variables without a value, in the order
of the declared names. -/
def missing (decl : EnvironmentDecl) (values : RuntimeValues) : List String :=
  (decl.imports.values.filter fun v => v.required && (values.value? v.runtimeName).isNone).map
    (·.runtimeName)

/-- Import the declared variables. -/
def importFrom (decl : EnvironmentDecl) (values : RuntimeValues) : ImportedScope :=
  ⟨.ofVariables scopeId (.ofList (decl.bindings values)), decl.missing values⟩

end EnvironmentDecl

end ApiPlaybook
