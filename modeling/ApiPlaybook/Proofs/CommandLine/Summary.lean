/-
  ApiPlaybook.Proofs.CommandLine.Summary
  ──────────────────────────────────────
  **WHAT A RUN ENDED WITH.**

  The variables that a run ended with are told in three ways: the stack that it
  returns is searched from the inside outwards, the summary puts the scopes of
  the stack over one another from the outside inwards, and the trace holds the
  assignments of each scope.

      the summary has for each name what the search finds
          (`ScopeStack.get?_latestValues`);
      the stack consists of the scopes that finished playbooks announce at
      depth 0 (`PlaybooksRun.settled`);
      each of them is what its assignments say
          (`ApiPlaybook.Proofs.Extraction.Replays`).

  So all three agree (`summarizes_runAll`).
-/
import Mathlib.Data.List.Induction
import ApiPlaybook.CommandLine.Execution
import ApiPlaybook.Proofs.Extraction.Replays
import ApiPlaybook.Proofs.Run.Account

namespace ApiPlaybook

/-! ## §1. Stacks. -/

namespace ScopeStack

/-- The maps of a stack, put over a map in turn. -/
theorem get?_foldl_union (stack : ScopeStack) (m : NameMap Json) (name : String) :
    (stack.foldl (fun acc scope => acc.union scope.vars) m).get? name
      = (stack.reverse.findSome? fun scope => scope.vars.get? name).or (m.get? name) := by
  -- each scope is put over what is there, so the map varies
  induction stack generalizing m with
  | nil => rfl
  | cons scope rest ih =>
    rw [List.foldl_cons, ih, NameMap.get?_union, List.reverse_cons, List.findSome?_append,
      Option.or_assoc, List.findSome?_singleton]

/-- Putting scopes over one another finds what searching them finds. -/
theorem get?_latestValues (stack : ScopeStack) (name : String) :
    stack.latestValues.get? name = (stack.resolve? name).map (·.1) := by
  unfold latestValues resolve?
  rw [get?_foldl_union, NameMap.get?_empty, Option.or_none, List.map_findSome?]
  congr 1
  funext scope
  simp [Function.comp_def]

/-- Scopes that are what their assignments say, put over one another. -/
theorem Replay.latestValues_eq {stack : ScopeStack} (h : stack.Replay) :
    stack.latestValues = replayed (stack.flatMap (·.assignments)) := by
  -- the innermost scope last, as it is the one put over all others
  induction stack using List.reverseRecOn with
  | nil => rfl
  | append_singleton outer scope ih =>
    obtain ⟨houter, hscope⟩ := List.forall_mem_append.mp h
    rw [List.forall_mem_singleton] at hscope
    have hlast : latestValues (outer ++ [scope]) = (latestValues outer).union scope.vars := by
      unfold latestValues
      rw [List.foldl_append]
      rfl
    rw [hlast, ih houter, hscope, List.flatMap_append, List.flatMap_singleton, replayed_append]

end ScopeStack

/-! ## §2. Scopes that finished playbooks set. -/

/-- What a trace has told at some place of the scopes that are set at depth 0. -/
structure Settling where
  /-- Set by playbooks that finished. -/
  settled : ScopeStack
  /-- Set by the playbook that is open. -/
  pending : ScopeStack

/-- An event, with the frames that are open before it. -/
def Settling.after (s : Settling) : List Frame × Event → Settling
  | ([], .playbookStarted _) => ⟨s.settled, []⟩
  | ([.playbook _], .variablesAssigned scope) => ⟨s.settled, s.pending ++ [scope]⟩
  | ([.playbook _], .playbookFinished) => ⟨s.settled ++ s.pending, []⟩
  | _ => s

/-- The scopes that are set at depth 0 by playbooks that finish, in order. -/
def settledScopes (trace : List Event) : ScopeStack :=
  ((framed [] trace).foldl Settling.after ⟨[], []⟩).settled

example (s s' : Scope) : settledScopes [.playbookStarted "p", .variablesAssigned s,
    .playbookFinished, .playbookStarted "q", .variablesAssigned s', .playbookAborted .tooDeep]
      = [s] := rfl

/-- Inside a playbook an event that does not finish it leaves what it sets pending. -/
theorem Settling.after_inside {p : List Frame × Event} (hinside : p.1 ≠ [])
    (hopen : outermost? Event.finished p = none) (s : Settling) :
    s.after p = ⟨s.settled, s.pending ++ (outermost? Event.setBy p).toList⟩ := by
  obtain ⟨frames, e⟩ := p
  cases frames with
  | nil => exact absurd rfl hinside
  | cons frame outer =>
    cases outer with
    | nil =>
      cases frame with
      | credential auth => simp [after, outermost?]
      | playbook name =>
        cases e with
        | playbookFinished => cases hopen
        | _ => simp [after, outermost?, Event.setBy]
    | cons => simp [after, outermost?]

/-- Inside a playbook that goes on, assignments wait and nothing is settled. -/
theorem Settling.foldl_after_inside {events : List (List Frame × Event)}
    (hinside : ∀ p ∈ events, p.1 ≠ [])
    (hopen : events.filterMap (outermost? Event.finished) = []) (s : Settling) :
    events.foldl Settling.after s
      = ⟨s.settled, s.pending ++ events.filterMap (outermost? Event.setBy)⟩ := by
  induction events generalizing s with
  | nil =>
    rw [List.filterMap_nil, List.append_nil]
    rfl
  | cons p rest ih =>
    obtain ⟨hp, hrest⟩ := List.forall_mem_cons.mp hinside
    rw [List.filterMap_eq_nil_iff] at hopen
    obtain ⟨hp', hrest'⟩ := List.forall_mem_cons.mp hopen
    rw [List.foldl_cons, Settling.after_inside hp hp',
      ih hrest (List.filterMap_eq_nil_iff.mpr hrest'), List.append_assoc]
    cases hset : outermost? Event.setBy p with
    | none => rw [List.filterMap_cons_none hset, Option.toList_none, List.nil_append]
    | some scope => rw [List.filterMap_cons_some hset, Option.toList_some, List.singleton_append]

section Rules

variable {c : Setup} {t : Transport} {nested : Runner} {n : Nat} {name : String}

/-- The stages of a playbook leave all they set waiting for its end. -/
theorem StagesRun.settling (hn : nested.Enclosed t n) {playbook : String}
    {stack assigned : ScopeStack} {index : Nat} {stages : List Stage} {m : Moment}
    {o : Outcome ScopeStack} (h : StagesRun c t nested playbook stack index assigned stages m o)
    (s : Settling) : (framed [.playbook name] o.trace).foldl Settling.after s
      = ⟨s.settled, s.pending ++ outermost Event.setBy [.playbook name] o.trace⟩ := by
  refine Settling.foldl_after_inside ?_ (h.not_finished hn) s
  intro p hp hnil
  obtain ⟨inner, hinner, -⟩ := (h.enclosed hn).within _ p hp
  rw [hnil] at hinner
  simp at hinner

/-- A playbook that finishes settles what it sets, and one that fails settles nothing. -/
theorem PlaybookRun.settled (hn : nested.Enclosed t n) {stages : List Stage}
    {stack : ScopeStack} {m : Moment} {o : Outcome ScopeStack}
    (h : PlaybookRun c t nested name stages stack m o) (s : Settling) :
    ((framed [] o.trace).foldl Settling.after s).settled = s.settled ++ o.value.getD [] := by
  cases h with
  | @failed trace m' hs =>
    show ((framed [.playbook name] trace).foldl Settling.after ⟨s.settled, []⟩).settled = _
    rw [hs.settling hn]
    exact (List.append_nil _).symm
  | @finished assigned trace m' hs =>
    have hframes : framesAfter [.playbook name] trace = [.playbook name] :=
      (hs.enclosed hn).frames _
    show ((framed [.playbook name] (trace ++ [.playbookFinished])).foldl Settling.after
      ⟨s.settled, []⟩).settled = _
    rw [framed_append, hframes, List.foldl_append, hs.settling hn, ← hs.scopes hn]
    rfl

end Rules

/-- **WHAT IS RETURNED IS WHAT IS SETTLED**: playbooks in turn add to the stack what the trace
tells to be set by those that finish. -/
theorem PlaybooksRun.settled {c : Setup} {t : Transport} {stack assigned v : ScopeStack}
    {ps : List Playbook} {m m' : Moment} {trace : List Event}
    (h : PlaybooksRun c t stack assigned ps m v trace m') (s : Settling)
    (hs : s.settled = assigned) : ((framed [] trace).foldl Settling.after s).settled = v := by
  have settled_of_playbook {p : Playbook} {assigned : ScopeStack} {m : Moment}
      {o : Outcome ScopeStack}
      (hn : (c.playbookAt 0 p.name p.stages (stack ++ assigned)).outcome t m = o) (s : Settling) :
      ((framed [] o.trace).foldl Settling.after s).settled = s.settled ++ o.value.getD [] := by
    have hrun := playbookRun_playbookAt c t p.name p.stages (stack ++ assigned) m
    rw [hn] at hrun
    exact hrun.settled (playbookWithin_enclosed c t (maxDepth - 1) 1) s
  induction h generalizing s with
  | done => exact hs
  | passedOver hp hr ih => exact ih s hs
  | halted hp hn => rw [settled_of_playbook hn s, hs, Option.getD_none, List.append_nil]
  | next hp hn hr ih =>
    have hframes : framesAfter [] _ = [] := ((playbookAt_enclosed c t 0).of_outcome hn).balanced []
    rw [framed_append, hframes, List.foldl_append]
    refine ih _ ?_
    rw [settled_of_playbook hn s, hs, Option.getD_some]

/-! ## §3. Summaries. -/

/-- Of assignments in turn the last one to a name counts. -/
theorem get?_replayed {assignments : List Assignment} {name : String} {value : Json} :
    (replayed assignments).get? name = some value ↔
      ∃ before after, assignments = before ++ ⟨name, value⟩ :: after ∧
        ∀ a ∈ after, a.name ≠ name := by
  unfold replayed
  rw [NameMap.get?_ofList, ← List.map_reverse, List.find?_map, Option.map_map,
    Option.map_eq_some_iff]
  constructor
  · rintro ⟨a, hfind, rfl⟩
    obtain ⟨hname, after, before, hsplit, hafter⟩ := List.find?_eq_some_iff_append.mp hfind
    have hname : a.name = name := by simpa using hname
    refine ⟨before.reverse, after.reverse, ?_, fun b hb => ?_⟩
    · rw [← List.reverse_reverse assignments, hsplit, ← hname]
      simp
    · simpa using hafter b (List.mem_reverse.mp hb)
  · rintro ⟨before, after, rfl, hafter⟩
    refine ⟨⟨name, value⟩, List.find?_eq_some_iff_append.mpr ⟨by simp, after.reverse,
      before.reverse, by simp, fun b hb => ?_⟩, rfl⟩
    simpa using hafter b (List.mem_reverse.mp hb)

/-- The summary of a run, its stack and its trace tell the same. -/
structure Summarizes (ran : Ran ScopeStack) : Prop where
  /-- The summary has exactly the names that the search of the stack finds, with the value
  found. -/
  resolved : ∀ name, (RunSummary.ofRan ran).vars.get? name = (ran.value.resolve? name).map (·.1)
  returned : ran.value = settledScopes ran.trace
  /-- It is what the assignments of the scopes lead to that finished playbooks set. -/
  replayed : (RunSummary.ofRan ran).vars
    = replayed ((settledScopes ran.trace).flatMap (·.assignments))
  /-- So of the assignments to a name the last one counts. -/
  last : ∀ name value, (RunSummary.ofRan ran).vars.get? name = some value ↔
    ∃ before after, (settledScopes ran.trace).flatMap (·.assignments)
        = before ++ ⟨name, value⟩ :: after ∧ ∀ a ∈ after, a.name ≠ name
  printed : (RunSummary.ofRan ran).toJson.member? "variables"
    = some (.ofNameMap (RunSummary.ofRan ran).vars)

/-- **THE SUMMARY**: at the end of every run it has the values that later stages would see, and
these are the values last assigned by the playbooks that finished. -/
theorem summarizes_runAll (c : Setup) (t : Transport) (values : RuntimeValues)
    (extra : ScopeStack) (ps : List Playbook) :
    Summarizes ((c.runAll values extra ps).run t []) := by
  obtain ⟨m, hrun, -⟩ := playbooksRun_runAll c t values extra ps
  have hreturned := (hrun.settled ⟨[], []⟩ rfl).symm
  have hreplayed := (hrun.replays nofun).latestValues_eq
  have hvars := hreplayed.trans (by rw [hreturned])
  exact {
    resolved := fun name => ScopeStack.get?_latestValues _ name
    returned := hreturned
    replayed := hvars
    last := fun name value => by
      show (ScopeStack.latestValues _).get? name = some value ↔ _
      rw [hvars]
      exact get?_replayed
    printed := by
      simp [RunSummary.toJson, Json.ofMembers, Json.member?, findEntry_insertEntry] }

end ApiPlaybook
