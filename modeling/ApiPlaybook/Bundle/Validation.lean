/-
  ApiPlaybook.Bundle.Validation
  ─────────────────────────────
  **WHAT IS WRONG WITH A BUNDLE.**

  A bundle that was read can still not make sense: a reference leads nowhere, a
  code is no code.  Each such violation tells where in the bundle it is and
  what is wrong.  A bundle is valid when there is none (`Bundle.IsValid`).
-/
import ApiPlaybook.Bundle.Basic
import ApiPlaybook.Credential

namespace ApiPlaybook

/-! ## §1. Violations. -/

/-- A step into a document. -/
inductive PathStep where
  | member (name : String)
  | index (i : Nat)
deriving DecidableEq, Inhabited

/-- A place in a bundle, as the steps from its root. -/
abbrev BundlePath := List PathStep

def PathStep.text : PathStep → String
  | .member name => "." ++ name
  | .index i => "[" ++ decimal i ++ "]"

/-- A place as it is written, the root being `$`. -/
def BundlePath.text (path : BundlePath) : String := path.foldl (fun s p => s ++ p.text) "$"

/-- What is wrong at a place. -/
inductive Fault where
  | missingUrl
  | emptyUrl
  | badCode (code : ResponseCode)
  | unknownCredential (name : String)
  | unknownMethod (credential method : String)
  | badResponseKey
  | missingRef
  | danglingRef (ref : RequestRef)
  | unknownDefault (method : String)
  | undeclaredEnvironment (name : String)
  | emptyVariableName
deriving DecidableEq, Inhabited

def Fault.message : Fault → String
  | .missingUrl => "external request must have a url"
  | .emptyUrl => "must not be empty"
  | .badCode code =>
    singleQuoted code.text ++ " is neither a status code nor a status category"
  | .unknownCredential name => "unknown credential " ++ singleQuoted name
  | .unknownMethod credential method =>
    "credential " ++ singleQuoted credential ++ " has no method " ++ singleQuoted method
  | .badResponseKey =>
    "response key must be a status code, a status category or " ++ singleQuoted "default"
  | .missingRef => "stage must reference a request"
  | .danglingRef ref => "reference " ++ singleQuoted ref.text ++ " does not resolve"
  | .unknownDefault method =>
    "default method " ++ singleQuoted method ++ " is not declared in methods"
  | .undeclaredEnvironment name =>
    "environment " ++ singleQuoted name ++ " is not declared in environments"
  | .emptyVariableName => "must not be empty"

/-- A fault and its place. -/
structure Violation where
  path : BundlePath
  fault : Fault
deriving DecidableEq, Inhabited

/-! ## §2. Requests and stages. -/

/-- Whether a key of response rules is a status, a category or `default`. -/
def isResponseKey (key : String) : Bool :=
  normalCode key == "default" || ResponseCode.isStatusOrCategory (normalCode key)

def Responses.violations (path : BundlePath) (rs : Responses) : List Violation :=
  (rs.names.filter fun key => !isResponseKey key).map fun key =>
    ⟨path ++ [.member key], .badResponseKey⟩

def ResponseCode.violations (path : BundlePath) (c : ResponseCode) : List Violation :=
  if c.isWellFormed then [] else [⟨path, .badCode c⟩]

/-- What is wrong with a reference to a credential. -/
def authFault? (b : Bundle) (ref : String) : Option Fault :=
  let r := AuthRef.ofText ref
  match b.credential? r.credential with
  | none => some (.unknownCredential r.credential)
  | some c =>
    r.method.bind fun method =>
      if c.methods.contains method then none else some (.unknownMethod r.credential method)

/-- The faults among the references of a list, each at its index. -/
def authViolations (b : Bundle) (path : BundlePath) (refs : List String) : List Violation :=
  refs.zipIdx.filterMap fun (ref, i) =>
    (authFault? b ref).map fun fault => ⟨path ++ [.index i], fault⟩

/-- What is wrong with the URL of a request to a free URL. -/
def Request.urlFault? (r : Request) : Option Fault :=
  if r.isExternal then
    match r.template.url with
    | none => some .missingUrl
    | some url => if isBlankText url then some .emptyUrl else none
  else none

def Request.violations (b : Bundle) (path : BundlePath) (r : Request) : List Violation :=
  (r.urlFault?.map fun fault => ⟨path ++ [.member "request", .member "url"], fault⟩).toList
    ++ r.defaultResponse.violations (path ++ [.member "defaultResponse"])
    ++ authViolations b (path ++ [.member "auth"]) r.auth
    ++ r.responses.violations (path ++ [.member "responses"])

/-- What is wrong with the reference of a stage. -/
def Stage.refFault? (b : Bundle) (s : Stage) : Option Fault :=
  match s.ref with
  | none => some .missingRef
  | some ref => if (b.request? ref).isSome then none else some (.danglingRef ref)

def Stage.violations (b : Bundle) (path : BundlePath) (s : Stage) : List Violation :=
  ((s.refFault? b).map fun fault => ⟨path ++ [.member "ref"], fault⟩).toList
    ++ (s.expected.map (·.violations (path ++ [.member "expectedResponse"]))).getD []
    ++ s.responses.violations (path ++ [.member "responses"])

/-- The violations of a list of stages. -/
def stagesViolations (b : Bundle) (path : BundlePath) (stages : List Stage) : List Violation :=
  stages.zipIdx.flatMap fun (s, i) => s.violations b (path ++ [.index i])

/-! ## §3. Bundles. -/

def Operation.violations (b : Bundle) (path : BundlePath) (o : Operation) : List Violation :=
  o.request.violations b (path ++ [.member "request"])
    ++ stagesViolations b (path ++ [.member "before"]) o.before
    ++ stagesViolations b (path ++ [.member "after"]) o.after
    ++ o.scenarios.entries.flatMap fun (id, scenario) =>
      stagesViolations b (path ++ [.member "scenarios", .member id, .member "requests"])
        scenario.stages

def Credential.violations (b : Bundle) (path : BundlePath) (c : Credential) : List Violation :=
  (if c.methods.contains c.defaultMethod then []
    else [⟨path ++ [.member "default"], .unknownDefault c.defaultMethod⟩])
    ++ c.methods.entries.flatMap fun (name, method) =>
      stagesViolations b (path ++ [.member "methods", .member name, .member "requests"])
        (method.stages.getD [])

def EnvironmentDecl.violations (path : BundlePath) (e : EnvironmentDecl) : List Violation :=
  (e.imports.entries.filter fun (_, v) => isBlankText v.runtimeName).map fun (name, _) =>
    ⟨path ++ [.member "variables", .member name, .member "name"], .emptyVariableName⟩

namespace Bundle

/-- Where the environment of a run is chosen. -/
def chosenEnvironmentPath : BundlePath :=
  [.member "runtimeConfiguration", .member "environment"]

/-- An environment may only be chosen when it is declared. -/
def environmentViolations (b : Bundle) : List Violation :=
  match b.chosenEnvironment with
  | some name =>
    if b.environments.contains name then []
    else [⟨chosenEnvironmentPath, .undeclaredEnvironment name⟩]
  | none => []

/-- All that is wrong with a bundle. -/
def violations (b : Bundle) : List Violation :=
  (b.operations.entries.flatMap fun (id, o) =>
      o.violations b [.member "operations", .member id])
    ++ (b.requests.entries.flatMap fun (id, r) =>
      r.violations b [.member "requests", .member id])
    ++ stagesViolations b [.member "before"] b.before
    ++ stagesViolations b [.member "after"] b.after
    ++ (b.credentialGroups.zipIdx.flatMap fun (group, i) =>
      group.entries.flatMap fun (name, c) =>
        c.violations b [.member "authenticationDetails", .index i, .member name])
    ++ b.environmentViolations
    ++ b.environments.entries.flatMap fun (name, e) =>
      e.violations [.member "environments", .member name]

/-- Nothing is wrong with the bundle. -/
def IsValid (b : Bundle) : Prop := b.violations = []

instance (b : Bundle) : Decidable b.IsValid := inferInstanceAs (Decidable (_ = _))

end Bundle

/-- A violation on one line. -/
def Violation.text (v : Violation) : String := v.path.text ++ ": " ++ v.fault.message

/-- The summary of so many violations. -/
def violationsMessage (count : Nat) : String :=
  "playbook bundle failed validation (" ++ decimal count ++ " violations)"

/-- The summary of violations, if there are any. -/
def violationSummary? (vs : List Violation) : Option String :=
  if vs.isEmpty then none else some (violationsMessage vs.length)

end ApiPlaybook
