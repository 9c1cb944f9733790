/-
  ApiPlaybook.CommandLine.Target
  ──────────────────────────────
  **WHAT IS RUN.**

  A target is an operation in one of its scenarios, a request or a global
  block.  It stands for a list of playbooks: the scenario with what comes
  before and after it, the request alone, or the block; around an operation or
  a request the global blocks may be run too.
-/
import ApiPlaybook.CommandLine.Session
import ApiPlaybook.Run.Playbook

namespace ApiPlaybook

/-! ## §1. Targets. -/

/-- What is run. -/
inductive Target where
  | operation (operation : Operation) (scenario : Scenario)
  | request (ref : RequestRef) (inputs : List (String × Json))
  | block (block : GlobalBlock)
deriving Inhabited

/-- The scenario of a name; the first one without a name. -/
def Operation.chooseScenario (o : Operation) (id : String) :
    Option String → Except TargetError Scenario
  | some name =>
    match o.scenarios.get? name with
    | some scenario => .ok scenario
    | none => .error (.unknownScenario id name)
  | none =>
    match o.scenarios.values.head? with
    | some scenario => .ok scenario
    | none => .error (.noScenarios id)

/-- The reference that a text means: `operation/id`, `request/id`, or the id of
a request or else of an operation. -/
def Bundle.readRef (b : Bundle) (text : String) : RequestRef :=
  match splitOnce text '/' with
  | some ("operation", id) => ⟨.operation, id⟩
  | some ("request", id) => ⟨.request, id⟩
  | _ => if b.requests.contains text then ⟨.request, text⟩ else ⟨.operation, text⟩

namespace Target

def ofOperation (b : Bundle) (id : String) (scenario : Option String) :
    Except TargetError Target := do
  match b.operations.get? id with
  | none => throw (.unknownOperation id)
  | some o => return .operation o (← o.chooseScenario id scenario)

def ofRequest (b : Bundle) (text : String) (inputs : List String) :
    Except TargetError Target := do
  let ref := b.readRef text
  if (b.request? ref).isNone then throw (.unknownRequest ref)
  return .request ref (← readPairs .badInput inputs)

end Target

/-- The target that is chosen in a bundle. -/
def TargetChoice.target (c : TargetChoice) (b : Bundle) : Except TargetError Target :=
  match c.operation, c.request, c.block with
  | some id, none, none => Target.ofOperation b id c.scenario
  | none, some text, none => Target.ofRequest b text c.inputs
  | none, none, some side => .ok (.block side)
  | _, _, _ => .error .notOne

/-! ## §2. Playbooks. -/

def GlobalBlock.playbook (b : Bundle) : GlobalBlock → Playbook
  | .before => ⟨"Global Before", b.before⟩
  | .after => ⟨"Global After", b.after⟩

/-- Playbooks with the global blocks around them. -/
def Bundle.surround (b : Bundle) (ps : List Playbook) : List Playbook :=
  [GlobalBlock.before.playbook b] ++ ps ++ [GlobalBlock.after.playbook b]

namespace Target

/-- What a target runs, without global blocks around it. -/
def ownPlaybooks (b : Bundle) : Target → List Playbook
  | .operation o scenario => [⟨"Before", o.before⟩, ⟨"Scenario", scenario.stages⟩, ⟨"After", o.after⟩]
  | .request ref _ => [⟨"Request", [.ofRef ref]⟩]
  | .block side => [side.playbook b]

/-- The playbooks of a target. -/
def playbooks (b : Bundle) (globalBlocks : Bool) : Target → List Playbook
  | .block side => [side.playbook b]
  | t => if globalBlocks then b.surround (t.ownPlaybooks b) else t.ownPlaybooks b

/-- The variables for a request are in a scope of this name. -/
def inputsId : String := "inputs"

/-- The scopes with the variables for a request. -/
def inputScopes : Target → ScopeStack
  | .request _ [] => []
  | .request _ inputs => [.ofVariables inputsId (.ofList inputs)]
  | _ => []

end Target

end ApiPlaybook
