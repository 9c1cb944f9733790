/-
  ApiPlaybook.Run.Auth
  ────────────────────
  **OBTAINING CREDENTIALS.**

  The value of a credential is taken from those obtained so far, or made from
  the template of its method.  A method may have stages of its own, which run
  as a playbook first and set variables for the template alone.
-/
import ApiPlaybook.OpenApi.Security
import ApiPlaybook.Run.Step

namespace ApiPlaybook

/-- A way to run stages as a playbook, which gives the scopes that they set. -/
abbrev Runner := String → List Stage → ScopeStack → Step ScopeStack

namespace Setup

/-- The method that a reference means. -/
def method (c : Setup) (auth : String) :
    Except RunError (CredentialKey × Credential × CredentialMethod) :=
  let ref := AuthRef.ofText auth
  match c.bundle.credential? ref.credential with
  | none => .error (.unknownCredential ref.credential)
  | some credential =>
    let key : CredentialKey := ⟨ref.credential, ref.method.getD credential.defaultMethod⟩
    match credential.methods.get? key.method with
    | none => .error (.unknownMethod key)
    | some method => .ok (key, credential, method)

/-- The scopes in which the template of a method is filled in. -/
def acquisitionScopes (nested : Runner) (auth : String) (m : CredentialMethod)
    (stack : ScopeStack) : Step ScopeStack :=
  match m.stages with
  | none => return stack
  | some stages => do
    let assigned ← (nested auth stages stack).orFail (.authAborted (.acquisitionFailed auth))
    return stack ++ assigned

/-- Obtain the value of a credential anew. -/
def acquire (nested : Runner) (auth : String) (key : CredentialKey) (m : CredentialMethod)
    (stack : ScopeStack) : Step String := do
  let scopes ← acquisitionScopes nested auth m stack
  let filled := substituteCredential m.template scopes
  -- reported as far as it was filled in, also when it is not complete
  Step.report (.credentialSubstituted auth filled.value scopes filled.found filled.missing)
  if !filled.isComplete then
    Step.fail (.authAborted (.credentialVariablesMissing auth (missingNamesText filled.missing)))
  Step.keep key filled.value
  return filled.value

/-- The value of a credential. -/
def credentialValue (nested : Runner) (auth : String) (key : CredentialKey)
    (m : CredentialMethod) (stack : ScopeStack) : Step String := do
  match ← Step.kept? key with
  | some value =>
    Step.report (.credentialFromCache auth value)
    return value
  | none => acquire nested auth key m stack

/-- Obtain the credential that a reference means. -/
def resolve (c : Setup) (nested : Runner) (stack : ScopeStack) (auth : String) :
    Step ResolvedCredential := do
  Step.report (.authStarted auth)
  match c.method auth with
  | .error e => Step.fail (.authAborted e)
  | .ok (key, credential, m) =>
    let value ← credentialValue nested auth key m stack
    -- what the bundle declares counts only where the API says nothing
    let declared ← Step.ofCourse (.ofWarned (c.api.securityScheme? key.credential))
    Step.report .authFinished
    return ⟨key, value, declared.or credential.declaredScheme⟩

/-- Obtain credentials in turn. -/
def resolveAll (c : Setup) (nested : Runner) (stack : ScopeStack) :
    List String → AuthResult → Step AuthResult
  | [], result => return result
  | auth :: rest, result => do
    let credential ← c.resolve nested stack auth
    resolveAll c nested stack rest (result.insert auth credential)

end Setup

end ApiPlaybook
