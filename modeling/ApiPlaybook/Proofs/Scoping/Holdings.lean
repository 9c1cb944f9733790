/-
  ApiPlaybook.Proofs.Scoping.Holdings
  ───────────────────────────────────
  **WHO HOLDS THE SCOPES THAT WERE SET.**

  A scope that a stage sets belongs to the playbook of the stage.  When that
  playbook finishes, its scopes go to what it was run for: the run itself, or a
  credential, which drops them when it is done.  So who holds which scopes can be
  followed from the events alone (`holdingsAfter`).

      a block of stages or a playbook gives its scopes to what is around it;
      the block of a credential leaves the holdings as they were
      (`CredentialDone.leaves`).
-/
import ApiPlaybook.Proofs.Run.Frames
import ApiPlaybook.Proofs.Run.Grammar

namespace ApiPlaybook

/-! ## §1. Holdings. -/

/-- The scopes that a run holds, and those that each open frame holds, the innermost
frame first. -/
structure Holdings where
  run : ScopeStack
  frames : List (Frame × ScopeStack)

namespace Holdings

/-- Nothing is open and nothing was set. -/
def empty : Holdings := ⟨[], []⟩

def opened (h : Holdings) (f : Frame) : Holdings := ⟨h.run, (f, []) :: h.frames⟩

/-- The innermost frame is gone, and what it held with it. -/
def closed (h : Holdings) : Holdings := ⟨h.run, h.frames.tail⟩

/-- More scopes for the innermost frame, or for the run when no frame is open. -/
def give (h : Holdings) (scopes : ScopeStack) : Holdings :=
  match h.frames with
  | [] => ⟨h.run ++ scopes, []⟩
  | (f, held) :: rest => ⟨h.run, (f, held ++ scopes) :: rest⟩

/-- What the innermost frame holds. -/
def innermost (h : Holdings) : ScopeStack :=
  match h.frames with
  | [] => h.run
  | (_, held) :: _ => held

/-- What the run and the open playbooks hold, from the outermost to the innermost. -/
def visible (h : Holdings) : ScopeStack :=
  h.run ++ (h.frames.reverse.filter (·.1.isPlaybook)).flatMap (·.2)

/-- A playbook is open and has set some scopes. -/
def within (h : Holdings) (name : String) (assigned : ScopeStack) : Holdings :=
  (h.opened (.playbook name)).give assigned

variable (h : Holdings) (name : String) (a b : ScopeStack)

@[simp] theorem give_nil : h.give [] = h := by
  obtain ⟨run, frames⟩ := h
  cases frames with
  | nil => simp [give]
  | cons top rest => simp [give]

/-- What is given twice is given one behind the other. -/
@[simp] theorem give_give : (h.give a).give b = h.give (a ++ b) := by
  obtain ⟨run, frames⟩ := h
  cases frames with
  | nil => simp [give]
  | cons top rest => simp [give]

/-- Inside a playbook it is the playbook that is given to. -/
theorem within_give : (h.within name a).give b = h.within name (a ++ b) := by
  unfold within
  rw [give_give]

/-- What the innermost playbook holds comes last. -/
theorem visible_within : (h.within name a).visible = h.visible ++ a := by
  unfold visible within opened give
  simp [Frame.isPlaybook, List.filter_append]

/-- What a credential holds is not to be seen. -/
theorem visible_give_credential (auth : String) :
    ((h.opened (.credential auth)).give a).visible = h.visible := by
  unfold visible opened give
  simp [Frame.isPlaybook]

end Holdings

/-! ## §2. Holdings behind a trace. -/

/-- The holdings behind an event. -/
def Event.holdingsAfter (h : Holdings) : Event → Holdings
  | .playbookStarted name => h.opened (.playbook name)
  | .authStarted auth => h.opened (.credential auth)
  | .variablesAssigned scope => h.give [scope]
  | .playbookFinished => h.closed.give h.innermost
  | .authFinished | .playbookAborted _ | .authAborted _ | .prepareFailed _ | .transportFailed _
  | .processingFailed _ => h.closed
  | _ => h

/-- The holdings behind a trace. -/
def holdingsAfter (h : Holdings) (trace : List Event) : Holdings :=
  trace.foldl Event.holdingsAfter h

@[simp] theorem holdingsAfter_nil (h : Holdings) : holdingsAfter h [] = h := rfl

@[simp] theorem holdingsAfter_cons (h : Holdings) (e : Event) (trace : List Event) :
    holdingsAfter h (e :: trace) = holdingsAfter (e.holdingsAfter h) trace := rfl

/-- The holdings are followed through one part and then the other. -/
theorem holdingsAfter_append (h : Holdings) (a b : List Event) :
    holdingsAfter h (a ++ b) = holdingsAfter (holdingsAfter h a) b :=
  List.foldl_append

example (s : Scope) : holdingsAfter .empty [.playbookStarted "p", .variablesAssigned s]
    = ⟨[], [(.playbook "p", [s])]⟩ := rfl

example (s : Scope) :
    holdingsAfter .empty [.playbookStarted "p", .variablesAssigned s, .playbookFinished]
    = ⟨[s], []⟩ := rfl

/-! ## §3. What blocks leave behind. -/

/-- The trace gives so many scopes to whatever is innermost around it. -/
def Gives (trace : List Event) (scopes : ScopeStack) : Prop :=
  ∀ h, holdingsAfter h trace = h.give scopes

/-- The trace leaves the holdings as they were. -/
def Leaves (trace : List Event) : Prop := ∀ h, holdingsAfter h trace = h

theorem Gives.nil : Gives [] [] := fun h => h.give_nil.symm

theorem Gives.append {a b : List Event} {x y : ScopeStack} (ha : Gives a x) (hb : Gives b y) :
    Gives (a ++ b) (x ++ y) := by
  intro h
  rw [holdingsAfter_append, ha, hb, Holdings.give_give]

/-- What leaves the holdings as they were gives nothing. -/
theorem Leaves.gives {trace : List Event} (h : Leaves trace) : Gives trace [] := by
  intro g
  rw [h, Holdings.give_nil]

/-- Two such parts leave them as they were. -/
theorem Leaves.append {a b : List Event} (ha : Leaves a) (hb : Leaves b) : Leaves (a ++ b) := by
  intro h
  rw [holdingsAfter_append, ha, hb]

/-- Such a part in front of one that gives. -/
theorem Leaves.append_gives {a b : List Event} {y : ScopeStack} (ha : Leaves a)
    (hb : Gives b y) : Gives (a ++ b) y :=
  ha.gives.append hb

/-- A playbook gives what its stages set. -/
theorem Gives.playbook {body : List Event} {scopes : ScopeStack} (hb : Gives body scopes)
    (name : String) : Gives ([.playbookStarted name] ++ body ++ [.playbookFinished]) scopes := by
  intro h
  rw [holdingsAfter_append, holdingsAfter_append]
  show Event.holdingsAfter (holdingsAfter (h.opened (.playbook name)) body) .playbookFinished = _
  rw [hb]
  rfl

/-- A credential keeps what was set for it to itself. -/
theorem Gives.credential {acquisition : List Event} {scopes : ScopeStack}
    (ha : Gives acquisition scopes) (auth : String) {told : Event}
    (ht : ∀ h, told.holdingsAfter h = h) :
    Leaves ([.authStarted auth] ++ acquisition ++ [told, .authFinished]) := by
  intro h
  rw [holdingsAfter_append, holdingsAfter_append]
  show Event.holdingsAfter
    (told.holdingsAfter (holdingsAfter (h.opened (.credential auth)) acquisition)) .authFinished = _
  rw [ha, ht]
  rfl

/-- A request gives the scopes of its two maps of rules. -/
theorem RequestDone.gives {request : Request} {trace : List Event}
    (hd : RequestDone request trace) : ∃ scopes, Gives trace scopes := by
  cases hd with
  | @intro stack found http reply first second =>
    refine ⟨[first, second], fun h => ?_⟩
    show (h.give [first]).give [second] = _
    rw [Holdings.give_give]
    rfl

mutual

/-- A playbook gives, when it finishes, what its stages gave to it. -/
theorem PlaybookDone.gives {c : Setup} {depth : Nat} {name : String} {stages : List Stage}
    {block : List Event} : PlaybookDone c depth name stages block → ∃ scopes, Gives block scopes
  | .intro _ hs =>
    let ⟨scopes, h⟩ := hs.gives
    ⟨scopes, h.playbook name⟩

/-- Stages give what each of them gives. -/
theorem StagesDone.gives {c : Setup} {depth : Nat} {stages : List Stage} {block : List Event} :
    StagesDone c depth stages block → ∃ scopes, Gives block scopes
  | .nil => ⟨[], .nil⟩
  | .cons hs hr =>
    let ⟨x, hx⟩ := hs.gives
    let ⟨y, hy⟩ := hr.gives
    ⟨x ++ y, hx.append hy⟩

/-- A stage gives what its request gives; its credentials leave the holdings alone. -/
theorem StageDone.gives {c : Setup} {depth : Nat} {s : Stage} {block : List Event} :
    StageDone c depth s block → ∃ scopes, Gives block scopes
  | .intro _ _ hc hd =>
    let ⟨scopes, h⟩ := hd.gives
    have started (ref : RequestRef) : Leaves [.requestStarted ref] := fun _ => rfl
    ⟨scopes, ((started _).append hc.leaves).append_gives h⟩

/-- Credentials leave the holdings as they were, one after another. -/
theorem CredentialsDone.leaves {c : Setup} {depth : Nat} {auths : List String}
    {block : List Event} : CredentialsDone c depth auths block → Leaves block
  | .nil => fun _ => rfl
  | .cons hc hr => hc.leaves.append hr.leaves

/-- **A CREDENTIAL LEAVES NOTHING BEHIND**: whatever was set to acquire it. -/
theorem CredentialDone.leaves {c : Setup} {depth : Nat} {auth : String} {block : List Event} :
    CredentialDone c depth auth block → Leaves block
  | .fromCache _ => Gives.nil.credential auth fun _ => rfl
  | .acquired _ ha =>
    let ⟨_, h⟩ := ha.gives
    h.credential auth fun _ => rfl

/-- The playbook of a credential gives to the credential. -/
theorem AcquisitionDone.gives {c : Setup} {depth : Nat} {auth : String}
    {method : CredentialMethod} {block : List Event} :
    AcquisitionDone c depth auth method block → ∃ scopes, Gives block scopes
  | .direct _ => ⟨[], .nil⟩
  | .staged _ hp => hp.gives

end

end ApiPlaybook
