/-
  ApiPlaybook.Proofs.Extraction.Replays
  ─────────────────────────────────────
  **SCOPES ARE WHAT THEIR ASSIGNMENTS SAY.**

  A scope holds its variables twice: as a map, and as the list of assignments in
  the order in which rules made them.  A scope is coherent if its map is what
  replaying the list gives (`Scope.Replays`).  Rules start from a scope without
  variables and change both at once, so all that they give is coherent
  (`Responses.extract_replays`), and with it all that a run returns
  (`PlaybooksRun.replays`).
-/
import ApiPlaybook.Proofs.Extraction.Chains
import ApiPlaybook.Proofs.Run.Rules

namespace ApiPlaybook

/-! ## §1. Rules. -/

/-- The map that assignments in turn lead to; the last one of a name counts. -/
def replayed (assignments : List Assignment) : NameMap Json :=
  .ofList (assignments.map fun a => (a.name, a.value))

/-- The variables of the scope are those of its assignments. -/
def Scope.Replays (s : Scope) : Prop := s.vars = replayed s.assignments

/-- Later assignments are put over earlier ones. -/
theorem replayed_append (before : List Assignment) (after : List Assignment) :
    replayed (before ++ after) = (replayed before).union (replayed after) := by
  unfold replayed
  rw [NameMap.union_ofList, List.map_append, NameMap.ofList, List.foldl_append]
  rfl

/-- Assigned to an empty scope, assignments leave what replaying them gives. -/
theorem Scope.assignAll_empty (id : String) (made : List Assignment) :
    (Scope.empty id).assignAll made = ⟨id, replayed made, made⟩ := by
  unfold replayed NameMap.ofList
  rw [Scope.assignAll_eq, List.foldl_map]
  rfl

/-- **COHERENCE**: a scope that rules give is what its assignments say. -/
theorem Responses.extract_replays {rs : Responses} {id : String} {request : HttpRequest}
    {reply : Reply} {scope : Scope} (h : rs.extract id request reply = .ok scope) :
    scope.Replays := by
  obtain ⟨made, -, rfl⟩ := Responses.exists_assignAll_of_extract h
  rw [Scope.assignAll_empty]
  rfl

/-! ## §2. Runs. -/

/-- Every scope of a stack is what its assignments say. -/
def ScopeStack.Replay (stack : ScopeStack) : Prop := ∀ scope ∈ stack, scope.Replays

section Rules

variable {c : Setup} {t : Transport} {nested : Runner} {playbook : String} {index : Nat}
  {stack assigned scopes : ScopeStack} {m m' : Moment} {trace : List Event}

/-- Scopes that replay, behind scopes that do. -/
theorem ScopeStack.Replay.append {stack stack' : ScopeStack} (h : stack.Replay)
    (h' : stack'.Replay) : (stack ++ stack').Replay :=
  List.forall_mem_append.mpr ⟨h, h'⟩

/-- A stage sets the two scopes of its rules, each a replay. -/
theorem StageRun.replays {s : Stage} {outer : ScopeStack}
    (h : StageRun c t nested playbook index s outer m ⟨some scopes, trace, m'⟩) :
    scopes.Replay := by
  generalize ho : (⟨some scopes, trace, m'⟩ : Outcome ScopeStack) = o at h
  cases h with
  | noRequest hr => cases ho
  | noCredentials hr hc => cases ho
  | ran hr hc hrun =>
    cases hrun with
    | done hp hnone hb ha hu h₁ h₂ =>
      cases ho
      exact List.forall_mem_cons.mpr ⟨Responses.extract_replays h₁,
        List.forall_mem_singleton.mpr (Responses.extract_replays h₂)⟩
    | _ => cases ho

theorem StagesRun.replays {stages : List Stage}
    (h : StagesRun c t nested playbook stack index assigned stages m ⟨some scopes, trace, m'⟩)
    (ha : assigned.Replay) : scopes.Replay := by
  generalize ho : (⟨some scopes, trace, m'⟩ : Outcome ScopeStack) = o at h
  induction h generalizing trace with
  | done =>
    cases ho
    exact ha
  | failed h => cases ho
  | next hs hr ih =>
    cases ho
    exact ih (ha.append hs.replays) rfl

theorem PlaybookRun.replays {name : String} {stages : List Stage}
    (h : PlaybookRun c t nested name stages stack m ⟨some scopes, trace, m'⟩) :
    scopes.Replay := by
  cases h with
  | finished hs => exact hs.replays nofun

/-- All that a list of playbooks sets is coherent. -/
theorem PlaybooksRun.replays {v : ScopeStack} {ps : List Playbook}
    (h : PlaybooksRun c t stack assigned ps m v trace m') (ha : assigned.Replay) : v.Replay := by
  induction h with
  | done => exact ha
  | passedOver hp hr ih => exact ih ha
  | halted hp hn => exact ha
  | @next assigned _ _ p _ m _ _ _ _ hp hn hr ih =>
    have hrun := playbookRun_playbookWithin c t (maxDepth - 1) 0 p.name p.stages
      (stack ++ assigned) m
    have hrun' : PlaybookRun c t _ p.name p.stages (stack ++ assigned) m _ := hn ▸ hrun
    exact ih (ha.append hrun'.replays)

end Rules

end ApiPlaybook
