/-
  ApiPlaybook.Run.Playbook
  ────────────────────────
  **PLAYBOOKS.**

  A playbook runs its stages in turn; each sees what the ones before it set,
  and the first that fails ends it.  Credentials are acquired by playbooks one
  level deeper, so a bound on the depth ends every run.  A run goes through a
  list of playbooks until one fails.
-/
import ApiPlaybook.Run.Stage

namespace ApiPlaybook

/-- Stages under a name. -/
structure Playbook where
  name : String
  stages : List Stage
deriving Inhabited

namespace Setup

/-! ## §1. One playbook. -/

/-- Run stages from an index on; `assigned` was set by those before. -/
def stages (c : Setup) (nested : Runner) (playbook : String) (stack : ScopeStack) :
    Nat → ScopeStack → List Stage → Step ScopeStack
  | _, assigned, [] => return assigned
  | index, assigned, s :: rest => do
    let scopes ← c.stage nested playbook index s (stack ++ assigned)
    c.stages nested playbook stack (index + 1) (assigned ++ scopes) rest

/-- Run a playbook at a depth, with that many levels left. -/
def playbookWithin (c : Setup) : Nat → Nat → Runner
  | 0, depth, name, _, _ => do
    Step.report (.playbookStarted name)
    Step.ofCourse (Course.warnAll [.depthLimit name depth])
    Step.fail (.playbookAborted .tooDeep)
  | levels + 1, depth, name, stages, stack => do
    Step.report (.playbookStarted name)
    -- with one level fewer, so that credentials that need themselves come to an end
    let assigned ← c.stages (c.playbookWithin levels (depth + 1)) name stack 0 [] stages
    Step.report .playbookFinished
    return assigned

/-- Run a playbook at a depth. -/
def playbookAt (c : Setup) (depth : Nat) : Runner := c.playbookWithin (maxDepth - depth) depth

/-! ## §2. Runs. -/

/-- Run playbooks in turn; those without stages are passed over.  The scopes
that they set are kept up to the first that fails. -/
def playbooks (c : Setup) (stack : ScopeStack) :
    CredentialCache → ScopeStack → List Playbook → Course ScopeStack
  | _, assigned, [] => return assigned
  | cache, assigned, p :: rest =>
    if p.stages.isEmpty then c.playbooks stack cache assigned rest
    else do
      -- what was obtained serves the playbooks behind as well
      let (result, cache) ← (c.playbookAt 0 p.name p.stages (stack ++ assigned)).run.run cache
      match result with
      | some scopes => c.playbooks stack cache (assigned ++ scopes) rest
      | none =>
        let skipped := (rest.filter fun q => !q.stages.isEmpty).map (·.name)
        unless skipped.isEmpty do Course.warnAll [.halted p.name skipped]
        return assigned

/-- Run playbooks in the environment of the bundle and further scopes. -/
def runAll (c : Setup) (values : RuntimeValues) (extra : ScopeStack) (ps : List Playbook) :
    Course ScopeStack := do
  let imported := c.bundle.importEnvironment values
  unless imported.missing.isEmpty do Course.warnAll [.missingRuntimeValues imported.missing]
  c.playbooks ([imported.scope] ++ extra) .empty [] ps

/-- Obtain credentials only, as from inside a playbook at that depth. -/
def preview (c : Setup) (cache : CredentialCache) (auths : List String) (stack : ScopeStack)
    (depth : Nat) : Course (Option AuthResult × CredentialCache) :=
  (c.resolveAll (c.playbookAt (depth + 1)) stack auths .empty).run.run cache

end Setup

end ApiPlaybook
