/-
  ApiPlaybook.Proofs.Run.Grouping
  ───────────────────────────────
  **HOW STAGES ARE GROUPED DOES NOT MATTER.**

  A stage of a playbook sees what the stages before it set and, outside of them,
  what the playbooks before have set.  Put together, these are the same scopes in
  the same order, however the stages before were divided among playbooks.  Only
  their names differ.  So a run of playbooks does what one run of all their
  stages does (`PlaybooksRun.allStages`), but for the events that start and
  finish the playbooks themselves:

      two runs with the same stages in the same order send the same requests and
      report the same kinds of events inside their playbooks
      (`sameWork_runAll`).

  That does not depend on whether a run succeeds: a stage that fails is the last
  one in both.
-/
import ApiPlaybook.Proofs.Run.Account
import ApiPlaybook.Proofs.Run.Renaming

namespace ApiPlaybook

/-! ## §1. What is reported inside playbooks. -/

/-- The event starts or finishes a playbook at depth 0. -/
def isOuterBound : List Frame × Event → Bool
  | ([], .playbookStarted _) => true
  | ([.playbook _], .playbookFinished) => true
  | _ => false

/-- The tags of the events that are left of a trace, from some frames on, without those
that start or finish the playbooks at depth 0. -/
def innerTags (outer : List Frame) (trace : List Event) : List String :=
  ((framed outer trace).filter fun p => !isOuterBound p).map (·.2.tag)

example (e : RunError) : innerTags [] [.playbookStarted "p", .authStarted "a",
    .playbookStarted "a", .playbookFinished, .authFinished, .playbookFinished,
    .playbookStarted "q", .playbookAborted e]
    = ["auth-started", "playbook-started", "playbook-finished", "auth-finished",
      "playbook-aborted"] := rfl

/-- Behind a part that leaves the frames as they were, the inner tags are collected afresh. -/
theorem innerTags_append {outer : List Frame} {x y : List Event}
    (hx : framesAfter outer x = outer) :
    innerTags outer (x ++ y) = innerTags outer x ++ innerTags outer y := by
  unfold innerTags
  rw [framed_append, hx, List.filter_append, List.map_append]

/-- With all frames forgotten, the tags of a trace are left. -/
theorem map_framed (outer : List Frame) (trace : List Event) :
    (framed outer trace).map (·.2.tag) = trace.map Event.tag := by
  induction trace generalizing outer with
  | nil => rfl
  | cons e rest ih => exact congrArg (e.tag :: ·) (ih _)

/-- Where no playbook at depth 0 is started or finished, nothing is left out. -/
theorem innerTags_eq {outer : List Frame} {trace : List Event}
    (h : ∀ p ∈ framed outer trace, isOuterBound p = false) :
    innerTags outer trace = trace.map Event.tag := by
  have hall : ∀ p ∈ framed outer trace, (!isOuterBound p) = true := by
    intro p hp
    rw [h p hp]
    rfl
  unfold innerTags
  rw [List.filter_eq_self.mpr hall, map_framed]

section Stages

variable {c : Setup} {t : Transport} {nested : Runner} {n : Nat} {name playbook : String}
  {stack assigned : ScopeStack} {index : Nat} {stages : List Stage} {m : Moment}
  {o : Outcome ScopeStack}

/-- Stages start no playbook at depth 0 and do not finish the one they are in. -/
theorem StagesRun.isOuterBound_eq (hn : nested.Enclosed t n)
    (h : StagesRun c t nested playbook stack index assigned stages m o) :
    ∀ p ∈ framed [.playbook name] o.trace, isOuterBound p = false := by
  intro p hp
  obtain ⟨inner, hi, -⟩ := (h.enclosed hn).within [.playbook name] p hp
  obtain ⟨frames, e⟩ := p
  cases hi
  cases inner with
  | nil =>
    have hfinished := List.filterMap_eq_nil_iff.mp (h.not_finished hn) _ hp
    cases e <;> first | rfl | cases hfinished
  | cons f inner => cases inner <;> cases e <;> first | rfl | (cases f <;> rfl)

/-- All that stages report is inside their playbook. -/
theorem StagesRun.innerTags_eq (hn : nested.Enclosed t n)
    (h : StagesRun c t nested playbook stack index assigned stages m o) :
    innerTags [.playbook name] o.trace = o.trace.map Event.tag :=
  ApiPlaybook.innerTags_eq (h.isOuterBound_eq hn)

end Stages

/-! ## §2. Stages one behind another. -/

/-- Stages are run behind other stages as those leave off. -/
theorem stages_append (c : Setup) (nested : Runner) (playbook : String) (stack : ScopeStack)
    (index : Nat) (assigned : ScopeStack) (x y : List Stage) :
    c.stages nested playbook stack index assigned (x ++ y) = (do
      let scopes ← c.stages nested playbook stack index assigned x
      c.stages nested playbook stack (index + x.length) scopes y) := by
  induction x generalizing index assigned with
  | nil => rw [Setup.stages, pure_bind]; rfl
  | cons s rest ih =>
    rw [List.cons_append, Setup.stages, Setup.stages, bind_assoc]
    congr 1
    funext scopes
    rw [ih, List.length_cons, Nat.add_right_comm, Nat.add_assoc]

/-- The stages of all playbooks, in order. -/
def allStages (ps : List Playbook) : List Stage := ps.flatMap (·.stages)

/-- Splitting a playbook in two keeps its stages in their order. -/
theorem allStages_split (before after : List Playbook) (name first second : String)
    (x y : List Stage) :
    allStages (before ++ ⟨name, x ++ y⟩ :: after)
      = allStages (before ++ ⟨first, x⟩ :: ⟨second, y⟩ :: after) := by
  simp [allStages]

/-- Playbooks without stages may be left out. -/
theorem allStages_filter {keep : Playbook → Bool} (ps : List Playbook)
    (h : ∀ p ∈ ps, keep p = false → p.stages = []) :
    allStages (ps.filter keep) = allStages ps := by
  induction ps with
  | nil => rfl
  | cons p rest ih =>
    obtain ⟨hp, hrest⟩ := List.forall_mem_cons.mp h
    unfold allStages at *
    cases hk : keep p with
    | true => rw [List.filter_cons_of_pos hk, List.flatMap_cons, List.flatMap_cons, ih hrest]
    | false =>
      rw [List.filter_cons_of_neg (by simp [hk]), List.flatMap_cons, hp hk, ih hrest]
      rfl

/-! ## §3. Playbooks and all of their stages. -/

section Playbooks

variable {c : Setup} {t : Transport} {stack assigned : ScopeStack} {m m' : Moment}
  {trace : List Event}

/-- A playbook at depth 0 is its stages, between the events that start and finish it. -/
theorem stages_of_playbookAt {name : String} {stages : List Stage} {v : Option ScopeStack}
    (h : (c.playbookAt 0 name stages stack).outcome t m = ⟨v, trace, m'⟩) :
    ∃ inside, (c.stages (c.playbookAt 1) name stack 0 [] stages).outcome t m = ⟨v, inside, m'⟩ ∧
      innerTags [] trace = inside.map Event.tag := by
  have hplaybook : c.playbookAt 0 name stages stack = (do
      Step.report (.playbookStarted name)
      let assigned ← c.stages (c.playbookAt 1) name stack 0 [] stages
      Step.report .playbookFinished
      return assigned) := rfl
  have hrun := stagesRun_stages c t (c.playbookAt 1) name stack 0 [] stages m
  rw [hplaybook] at h
  simp only [Step.outcome_bind, Step.outcome_report, Outcome.andThen_some] at h
  rcases hs : (c.stages (c.playbookAt 1) name stack 0 [] stages).outcome t m with ⟨v', inside, m₁⟩
  rw [hs] at h hrun
  have hinner : innerTags [.playbook name] inside = inside.map Event.tag :=
    hrun.innerTags_eq (playbookAt_enclosed c t 1)
  -- what starts the playbook is left out, and what comes behind it is inside
  cases v' with
  | none =>
    cases h
    exact ⟨inside, rfl, hinner⟩
  | some scopes =>
    cases h
    have hframes : framesAfter [.playbook name] inside = [.playbook name] :=
      (hrun.enclosed (playbookAt_enclosed c t 1)).frames _
    refine ⟨inside, rfl, ?_⟩
    show innerTags [.playbook name] (inside ++ [.playbookFinished]) = _
    rw [innerTags_append hframes, hinner]
    exact List.append_nil _

/-- Stages run as a playbook of their own, behind what other playbooks have set, do the
same as behind stages that set it. -/
theorem stages_of_playbook {name : String} {stages : List Stage} {assigned' : ScopeStack}
    {v : Option ScopeStack}
    (h : (c.playbookAt 0 name stages (stack ++ assigned)).outcome t m = ⟨v, trace, m'⟩)
    (ha : SameValues (stack ++ assigned') (stack ++ assigned)) (playbook : String) (index : Nat) :
    ∃ v' inside, (c.stages (c.playbookAt 1) playbook stack index assigned' stages).outcome t m
        = ⟨v', inside, m'⟩ ∧ innerTags [] trace = inside.map Event.tag ∧
      Option.Rel (fun v' v => SameValues (stack ++ v') (stack ++ (assigned ++ v))) v' v := by
  obtain ⟨inside, hs, htags⟩ := stages_of_playbookAt h
  have hnested : Runner.Same t (c.playbookAt 1) (c.playbookAt 1) :=
    playbookWithin_same c (maxDepth - 1) 1
  have hscopes : SameValues (stack ++ assigned') (stack ++ assigned ++ []) := by
    rwa [List.append_nil]
  have hsame := stages_same c hnested playbook name index 0 stages hscopes m
  rw [hs] at hsame
  generalize (c.stages (c.playbookAt 1) playbook stack index assigned' stages).outcome t m = o
    at hsame ⊢
  cases hsame with
  | some hv hx =>
    rw [List.append_assoc] at hv
    exact ⟨_, _, rfl, htags.trans hx.symm, .some hv⟩
  | none hx => exact ⟨_, _, rfl, htags.trans hx.symm, .none⟩

/-- **A RUN OF PLAYBOOKS IS A RUN OF ALL THEIR STAGES**, in a playbook of any name and
from any index on. -/
theorem PlaybooksRun.allStages {v assigned' : ScopeStack} {ps : List Playbook}
    (h : PlaybooksRun c t stack assigned ps m v trace m')
    (ha : SameValues (stack ++ assigned') (stack ++ assigned)) (playbook : String) (index : Nat) :
    ∃ v' inside, (c.stages (c.playbookAt 1) playbook stack index assigned'
        (ApiPlaybook.allStages ps)).outcome t m = ⟨v', inside, m'⟩ ∧
      innerTags [] trace = inside.map Event.tag := by
  -- the playbooks left; the flat run goes through their stages in the same order
  induction h generalizing assigned' index with
  | done => exact ⟨some assigned', [], rfl, rfl⟩
  | @passedOver assigned v p rest m m' trace hp hr ih =>
    have hstages : ApiPlaybook.allStages (p :: rest) = ApiPlaybook.allStages rest := by
      unfold ApiPlaybook.allStages
      rw [List.flatMap_cons, List.isEmpty_iff.mp hp]
      rfl
    rw [hstages]
    exact ih ha index
  | @halted assigned p rest m m' trace hp hn =>
    obtain ⟨v', inside, hs, htags, hv⟩ := stages_of_playbook hn ha playbook index
    cases hv
    refine ⟨none, inside, ?_, htags⟩
    unfold ApiPlaybook.allStages
    rw [List.flatMap_cons, stages_append, Step.outcome_bind, hs]
    rfl
  | @next assigned scopes v p rest m m₁ m₂ trace trace' hp hn hr ih =>
    obtain ⟨v', inside, hs, htags, hv⟩ := stages_of_playbook hn ha playbook index
    cases hv with
    | some hv =>
      obtain ⟨v'', inside', hs', htags'⟩ := ih hv (index + p.stages.length)
      refine ⟨v'', inside ++ inside', ?_, ?_⟩
      · unfold ApiPlaybook.allStages at hs' ⊢
        rw [List.flatMap_cons, stages_append, Step.outcome_bind, hs, Outcome.andThen_some, hs']
        rfl
      · have hbalanced := ((playbookAt_enclosed c t 0).of_outcome hn).balanced
        rw [innerTags_append (hbalanced []), htags, htags', List.map_append]

end Playbooks

/-! ## §4. Whole runs. -/

/-- Two runs send the same requests and report the same kinds of events in the same
order, but for those that start or finish a playbook at depth 0. -/
structure SameWork (ran ran' : Ran ScopeStack) : Prop where
  sent : ran.sent = ran'.sent
  tags : innerTags [] ran.trace = innerTags [] ran'.trace

/-- Two lists of playbooks with the same stages do the same work, since a flat run of these stages
does. -/
theorem sameWork_of_allStages (c : Setup) (t : Transport) (values : RuntimeValues)
    (extra : ScopeStack) {ps qs : List Playbook} (h : allStages ps = allStages qs) :
    SameWork ((c.runAll values extra ps).run t []) ((c.runAll values extra qs).run t []) := by
  obtain ⟨m, hrun, hsent⟩ := playbooksRun_runAll c t values extra ps
  obtain ⟨m', hrun', hsent'⟩ := playbooksRun_runAll c t values extra qs
  -- both are compared with one run of all the stages
  obtain ⟨v, inside, hs, htags⟩ := hrun.allStages (.refl _) "" 0
  obtain ⟨v', inside', hs', htags'⟩ := hrun'.allStages (.refl _) "" 0
  rw [h, hs'] at hs
  cases hs
  exact ⟨hsent.trans hsent'.symm, htags.trans htags'.symm⟩

/-- **THE GROUPING OF STAGES DOES NOT MATTER**: playbooks with the same stages in the same
order do the same work, whatever the bundle, the values, the scopes around the run and
the transport.  So a playbook may be split in two of any names, and playbooks without
stages may be left out. -/
theorem sameWork_runAll (c : Setup) (t : Transport) (values : RuntimeValues)
    (extra : ScopeStack) :
    (∀ ps qs, allStages ps = allStages qs →
      SameWork ((c.runAll values extra ps).run t []) ((c.runAll values extra qs).run t [])) ∧
    (∀ before after name first second x y,
      SameWork ((c.runAll values extra (before ++ ⟨name, x ++ y⟩ :: after)).run t [])
        ((c.runAll values extra (before ++ ⟨first, x⟩ :: ⟨second, y⟩ :: after)).run t [])) ∧
    (∀ ps keep, (∀ p ∈ ps, keep p = false → p.stages = []) →
      SameWork ((c.runAll values extra (ps.filter keep)).run t [])
        ((c.runAll values extra ps).run t [])) := by
  refine ⟨?_, ?_, ?_⟩
  · intro ps qs h
    exact sameWork_of_allStages c t values extra h
  · intro before after name first second x y
    exact sameWork_of_allStages c t values extra
      (allStages_split before after name first second x y)
  · intro ps keep h
    exact sameWork_of_allStages c t values extra (allStages_filter ps h)

/-- A request that stands on its own. -/
def pingSetup : Setup :=
  let ping : Request := ⟨none, .empty, [], .ofStatus 200, .empty,
    ⟨some "coap://api.test/ping", none, ⟨.empty, .empty, .empty, .empty⟩, none⟩⟩
  ⟨⟨.empty, .ofList [("ping", ping)], [], [], [], .empty, none⟩, ⟨.ofMembers []⟩, ""⟩

def pingStage : Stage := .ofRef ⟨.request, "ping"⟩

/-- One playbook, or two with one between them that does nothing. -/
theorem sameWork_runAll_pings :
    allStages [⟨"pings", [pingStage, pingStage]⟩]
        = allStages [⟨"ping", [pingStage]⟩, ⟨"nothing", []⟩, ⟨"again", [pingStage]⟩] ∧
      SameWork
        ((pingSetup.runAll ⟨.empty, .empty⟩ [] [⟨"pings", [pingStage, pingStage]⟩]).run .mock [])
        ((pingSetup.runAll ⟨.empty, .empty⟩ []
          [⟨"ping", [pingStage]⟩, ⟨"nothing", []⟩, ⟨"again", [pingStage]⟩]).run .mock []) :=
  ⟨rfl, (sameWork_runAll pingSetup .mock ⟨.empty, .empty⟩ []).1 _ _ rfl⟩

end ApiPlaybook
