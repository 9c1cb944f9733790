/-
  ApiPlaybook.OpenApi.Operation
  ─────────────────────────────
  **OPERATIONS OF AN API.**

  An operation is looked up by its id, path by path and method by method.  Its
  parameters are those of the path with those of the operation over them, in
  the order of location and name; its base URL is the first server of the
  operation, of the path or of the document.
-/
import ApiPlaybook.Warning

namespace ApiPlaybook

/-- A parameter of an operation. -/
structure ApiParameter where
  name : String
  location : ParameterLocation
  required : Bool
deriving DecidableEq, Inhabited

/-- An operation. -/
structure ApiOperation where
  id : String
  method : String
  path : String
  /-- Empty when no server is declared. -/
  baseUrl : String
  parameters : List ApiParameter
deriving DecidableEq, Inhabited

/-- The required parameters of a location. -/
def ApiOperation.required (o : ApiOperation) (location : ParameterLocation) : List ApiParameter :=
  o.parameters.filter fun p => p.required && p.location == location

/-! ## §1. Parameters. -/

namespace ApiParameter

/-- The parameter that an object describes; those in the path are required. -/
def ofJson? (j : Json) : Option ApiParameter := do
  let name ← (j.member? "name").bind Json.asString?
  let word ← (j.member? "in").bind Json.asString?
  let location ← ParameterLocation.all.find? fun l => l.word == word
  let required := ((j.member? "required").bind Json.asBool?).getD false
  return ⟨name, location, location == .path || required⟩

/-- Parameters in the order of location and name; of those that agree in both
the last one counts. -/
def merge (ps : List ApiParameter) : List ApiParameter :=
  ParameterLocation.all.flatMap fun location =>
    let here := ps.filter fun p => p.location == location
    (NameMap.ofList (here.map fun p => (p.name, p.required))).entries.map fun (name, required) =>
      ⟨name, location, required⟩

end ApiParameter

namespace ApiDocument

/-- The parameter that an entry stands for. -/
def parameter (d : ApiDocument) (entry : Json) : Except EntryFault ApiParameter :=
  match d.deref entry with
  | .error e => .error (.badRef e)
  | .ok j =>
    match ApiParameter.ofJson? j with
    | some p => .ok p
    | none => .error .notParameter

/-- The entries under `parameters`. -/
def parameterEntries (j : Json) : List Json := ((j.member? "parameters").bind Json.asArray?).getD []

/-- The parameters of a list of entries; each entry that is none is reported. -/
def parametersOf (d : ApiDocument) (operation : String) (level : ParameterLevel)
    (entries : List Json) : Warned (List ApiParameter) :=
  let read := entries.map d.parameter
  ⟨read.filterMap fun r => r.toOption,
    read.filterMap fun
      | .ok _ => none
      | .error fault => some (.badEntry operation level fault)⟩

/-! ## §2. Servers. -/

/-- The URL of the first server of an object. -/
def firstServer? (j : Json) : Option String := do
  let servers ← (j.member? "servers").bind Json.asArray?
  ((← servers.head?).member? "url").bind Json.asString?

/-- The URL made of scheme, host and base path. -/
def hostUrl? (d : ApiDocument) : Option String := do
  let host ← (d.content.member? "host").bind Json.asString?
  let schemes := ((d.content.member? "schemes").bind Json.asArray?).getD []
  let scheme := (schemes.head?.bind Json.asString?).getD "https"
  let basePath := ((d.content.member? "basePath").bind Json.asString?).getD ""
  return scheme ++ "://" ++ host ++ basePath

/-- The URL of the document's own server. -/
def defaultServer? (d : ApiDocument) : Option String :=
  (firstServer? d.content).or d.hostUrl?

/-! ## §3. Operations. -/

/-- Where an operation stands in a document. -/
structure OperationPlace where
  path : String
  pathItem : Json
  method : String
  operation : Json

/-- The methods of a path, in the order in which they are looked at. -/
def methods : List String := ["get", "put", "post", "delete", "options", "head", "patch", "trace"]

/-- All operations of a path. -/
def pathOperations (path : String) (item : Json) : List OperationPlace :=
  methods.filterMap fun method => (item.member? method).map fun op => ⟨path, item, method, op⟩

/-- All operations of a document, path by path. -/
def operationPlaces (d : ApiDocument) : List OperationPlace :=
  (((d.content.member? "paths").bind Json.asObject?).getD []).flatMap fun (path, item) =>
    pathOperations path item

def OperationPlace.id? (p : OperationPlace) : Option String :=
  (p.operation.member? "operationId").bind Json.asString?

/-- The base URL of an operation; empty when there is none. -/
def baseUrl (d : ApiDocument) (p : OperationPlace) : String :=
  (((firstServer? p.operation).or (firstServer? p.pathItem)).or d.defaultServer?).getD ""

/-- The parameters of an operation. -/
def parameters (d : ApiDocument) (id : String) (p : OperationPlace) :
    Warned (List ApiParameter) := do
  let general ← d.parametersOf id .pathItem (parameterEntries p.pathItem)
  let own ← d.parametersOf id .operation (parameterEntries p.operation)
  return ApiParameter.merge (general ++ own)

/-- The place of the first operation of an id. -/
def place? (d : ApiDocument) (id : String) : Option OperationPlace :=
  d.operationPlaces.find? fun p => p.id? == some id

/-- The first operation of an id. -/
def operation? (d : ApiDocument) (id : String) : Warned (Option ApiOperation) :=
  match d.place? id with
  | none => return none
  | some p => do
    let parameters ← d.parameters id p
    return some ⟨id, p.method.toUpper, p.path, d.baseUrl p, parameters⟩

end ApiDocument

end ApiPlaybook
