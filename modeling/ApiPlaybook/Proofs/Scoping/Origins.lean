/-
  ApiPlaybook.Proofs.Scoping.Origins
  ──────────────────────────────────
  **WHERE A VALUE COMES FROM.**

  The origin of a value is told by the name of a scope.  A stage names the two
  scopes that it sets after its playbook and its own place there, in one text
  without quotes, so a name such as `a-step-0` could be taken for a part of it.
  It never is: the place can be read off the end of the text, where the digits
  stand, and the playbook off the rest (`stageId_inj`).

      where outermost playbooks have different names and the scopes around a run
      have names of their own, no two scopes of a payload at depth 0 and none of
      the run's value have the same name (`unambiguous_runAll`).
-/
import ApiPlaybook.Proofs.Extraction.Chains
import ApiPlaybook.Proofs.Run.Account
import ApiPlaybook.Proofs.Template.LookUps
import Mathlib.Data.List.Nodup

namespace ApiPlaybook

/-! ## §1. Names of scopes. -/

/-- What stands behind the last mark of a text, and what stands before it, can be read
off the text. -/
theorem append_cons_inj_of_not_mem {mark : Char} {a b a' b' : List Char} (hb : mark ∉ b)
    (hb' : mark ∉ b') (h : a ++ mark :: b = a' ++ mark :: b') : a = a' ∧ b = b' := by
  -- read backwards it is the first mark
  have hr : b.reverse ++ mark :: a.reverse = b'.reverse ++ mark :: a'.reverse := by
    simpa using congrArg List.reverse h
  have hs : splitFirst mark (b.reverse ++ mark :: a.reverse) = some (b.reverse, a.reverse) :=
    splitFirst_append a.reverse (by simpa using hb)
  rw [hr, splitFirst_append a'.reverse (by simpa using hb')] at hs
  obtain ⟨hb, ha⟩ := Prod.mk.inj (Option.some.inj hs)
  exact ⟨List.reverse_injective ha.symm, List.reverse_injective hb.symm⟩

theorem isDigit_of_mem_decimal {n : Nat} {c : Char} (h : c ∈ (decimal n).toList) :
    c.isDigit = true := by
  unfold decimal at h
  rw [String.toList_ofList] at h
  exact Nat.isDigit_of_mem_toDigits (by decide) (by decide) h

theorem decimal_inj {m n : Nat} (h : decimal m = decimal n) : m = n := by
  unfold decimal at h
  have hdigits := congrArg (fun ds => Nat.ofDigitChars 10 ds 0) (String.ofList_injective h)
  simpa using hdigits

/-- The name of a scope, cut before the place of its stage. -/
theorem toList_stageId (playbook : String) (index : Nat) :
    (stageId playbook index).toList
      = ("playbook-" ++ playbook ++ "-step").toList ++ '-' :: (decimal index).toList := by
  unfold stageId
  simp [String.toList_append, show "-step-".toList = "-step".toList ++ ['-'] from rfl]

/-- **THE NAME OF A SCOPE TELLS WHO SET IT**, whatever the playbook is called. -/
theorem stageId_inj {playbook playbook' : String} {index index' : Nat}
    (h : stageId playbook index = stageId playbook' index') :
    playbook = playbook' ∧ index = index' := by
  have hdash (n : Nat) : '-' ∉ (decimal n).toList := fun hm => by
    have := isDigit_of_mem_decimal hm
    revert this
    decide
  have hlist := congrArg String.toList h
  rw [toList_stageId, toList_stageId] at hlist
  obtain ⟨hname, hdigits⟩ := append_cons_inj_of_not_mem (hdash index) (hdash index') hlist
  simp only [String.toList_append, List.append_cancel_left_eq, List.append_cancel_right_eq] at hname
  exact ⟨String.toList_injective hname, decimal_inj (String.toList_injective hdigits)⟩

/-- The name of the scope of a request tells its playbook and its place. -/
theorem stageRequestId_inj {playbook playbook' : String} {index index' : Nat}
    (h : stageRequestId playbook index = stageRequestId playbook' index') :
    playbook = playbook' ∧ index = index' := by
  have hlist := congrArg String.toList h
  unfold stageRequestId at hlist
  simp only [String.toList_append, List.append_cancel_right_eq] at hlist
  exact stageId_inj (String.toList_injective hlist)

/-- One of the two ends in a digit, the other does not. -/
theorem stageId_ne_stageRequestId (playbook playbook' : String) (index index' : Nat) :
    stageId playbook index ≠ stageRequestId playbook' index' := by
  intro h
  have hlast := congrArg (fun s => s.toList.getLast?) h
  have hdigits : (decimal index).toList ≠ [] := by
    unfold decimal
    rw [String.toList_ofList]
    exact Nat.toDigits_ne_nil
  have hdigit := isDigit_of_mem_decimal (List.getLast_mem hdigits)
  simp only [stageRequestId, String.toList_append, toList_stageId] at hlast
  rw [List.getLast?_append_of_ne_nil _ (by simp), List.getLast?_append_of_ne_nil _ (by decide),
    List.getLast?_cons_of_ne_nil hdigits, List.getLast?_eq_some_getLast hdigits] at hlast
  rw [Option.some.inj hlast] at hdigit
  revert hdigit
  decide

/-! ## §2. The names that playbooks give. -/

/-- The names of the scopes that a stage sets. -/
def stageIds (playbook : String) (index : Nat) : List String :=
  [stageRequestId playbook index, stageId playbook index]

/-- The names of the scopes that playbooks set, each with so many stages. -/
def idsOf (counts : List (String × Nat)) : List String :=
  counts.flatMap fun p => (List.range p.2).flatMap (stageIds p.1)

/-- The scopes of one playbook behind those of others. -/
theorem idsOf_append (counts counts' : List (String × Nat)) :
    idsOf (counts ++ counts') = idsOf counts ++ idsOf counts' :=
  List.flatMap_append

/-- One more stage. -/
theorem idsOf_succ (playbook : String) (index : Nat) :
    idsOf [(playbook, index + 1)] = idsOf [(playbook, index)] ++ stageIds playbook index := by
  simp [idsOf, List.range_succ]

theorem mem_stageIds {playbook id : String} {index : Nat} :
    id ∈ stageIds playbook index ↔
      id = stageRequestId playbook index ∨ id = stageId playbook index := by
  simp [stageIds]

/-- Two stages with a name in common are one. -/
theorem eq_of_mem_stageIds {playbook playbook' id : String} {index index' : Nat}
    (h : id ∈ stageIds playbook index) (h' : id ∈ stageIds playbook' index') :
    playbook = playbook' ∧ index = index' := by
  rcases mem_stageIds.mp h with rfl | rfl <;> rcases mem_stageIds.mp h' with he | he
  · exact stageRequestId_inj he
  · exact absurd he.symm (stageId_ne_stageRequestId _ _ _ _)
  · exact absurd he (stageId_ne_stageRequestId _ _ _ _)
  · exact stageId_inj he

/-- Each scope was set by some stage of some playbook. -/
theorem mem_idsOf {counts : List (String × Nat)} {id : String} (h : id ∈ idsOf counts) :
    ∃ p ∈ counts, ∃ index < p.2, id ∈ stageIds p.1 index := by
  obtain ⟨p, hp, h⟩ := List.mem_flatMap.mp h
  obtain ⟨index, hi, h⟩ := List.mem_flatMap.mp h
  exact ⟨p, hp, index, List.mem_range.mp hi, h⟩

/-- Playbooks of different names give different names. -/
theorem idsOf_nodup {counts : List (String × Nat)} (h : (counts.map (·.1)).Nodup) :
    (idsOf counts).Nodup := by
  have hstage (playbook : String) (index : Nat) : (stageIds playbook index).Nodup := by
    simpa [stageIds] using (stageId_ne_stageRequestId playbook playbook index index).symm
  refine List.nodup_flatMap.mpr
    ⟨fun p _ => List.nodup_flatMap.mpr ⟨fun i _ => hstage p.1 i, ?_⟩, ?_⟩
  · -- the stages of one playbook are told apart by their places
    refine List.nodup_range.imp ?_
    intro i j hne id hi hj
    exact hne (eq_of_mem_stageIds hi hj).2
  · refine (List.pairwise_map.mp h).imp ?_
    intro p q hne id hp hq
    obtain ⟨i, -, hi⟩ := List.mem_flatMap.mp hp
    obtain ⟨j, -, hj⟩ := List.mem_flatMap.mp hq
    exact hne (eq_of_mem_stageIds hi hj).1

/-- Whether a run may give that name to a scope itself. -/
def isReservedId (id : String) : Bool :=
  "playbook-".toList.isPrefixOf id.toList ||
    [EnvironmentDecl.scopeId, stageScopeId, requestScopeId].contains id

/-- What a stage sets has a name that is reserved for it. -/
theorem isPrefixOf_of_mem_stageIds {playbook id : String} {index : Nat}
    (h : id ∈ stageIds playbook index) : "playbook-".toList.isPrefixOf id.toList = true := by
  refine List.isPrefixOf_iff_prefix.mpr ?_
  rcases mem_stageIds.mp h with rfl | rfl
  · simp [stageRequestId, stageId, String.toList_append]
  · simp [stageId, String.toList_append]

theorem isPrefixOf_of_mem_idsOf {counts : List (String × Nat)} {id : String}
    (h : id ∈ idsOf counts) : "playbook-".toList.isPrefixOf id.toList = true := by
  obtain ⟨p, -, index, -, h⟩ := mem_idsOf h
  exact isPrefixOf_of_mem_stageIds h

/-- The names of a payload: the scopes around the run, what playbooks have set, and the two
of the stage itself. -/
theorem payloadIds_nodup {extra : List String} {counts : List (String × Nat)}
    (he : extra.Nodup) (hfree : ∀ id ∈ extra, isReservedId id = false)
    (hc : (counts.map (·.1)).Nodup) :
    (EnvironmentDecl.scopeId :: extra ++ idsOf counts ++ [stageScopeId, requestScopeId]).Nodup := by
  -- what a run calls its own scopes, with or without `playbook-` in front, is in no other part
  have hset : ∀ id ∈ idsOf counts, isReservedId id = true ∧
      id ∉ [EnvironmentDecl.scopeId, stageScopeId, requestScopeId] := by
    intro id hid
    have hp := isPrefixOf_of_mem_idsOf hid
    refine ⟨by rw [isReservedId, hp]; rfl, fun hm => ?_⟩
    have hno : ∀ id ∈ [EnvironmentDecl.scopeId, stageScopeId, requestScopeId],
        "playbook-".toList.isPrefixOf id.toList = false := by decide
    rw [hno id hm] at hp
    cases hp
  have hown : ∀ id ∈ [EnvironmentDecl.scopeId, stageScopeId, requestScopeId],
      isReservedId id = true := by decide
  have apart {id id' : String} (h : id ∈ extra) (h' : isReservedId id' = true) : id ≠ id' := by
    rintro rfl
    rw [hfree id h] at h'
    cases h'
  have hpayload : ∀ id ∈ [stageScopeId, requestScopeId],
      id ∈ [EnvironmentDecl.scopeId, stageScopeId, requestScopeId] :=
    fun id h => List.mem_cons_of_mem _ h
  rw [List.nodup_append, List.cons_append, List.nodup_cons, List.nodup_append]
  refine ⟨⟨?_, he, idsOf_nodup hc, ?_⟩, by decide, ?_⟩
  · intro hm
    rcases List.mem_append.mp hm with hm | hm
    · exact apart hm (hown _ List.mem_cons_self) rfl
    · exact (hset _ hm).2 List.mem_cons_self
  · intro id hid id' hid'
    exact apart hid (hset id' hid').1
  · intro id hid id' hid'
    rcases List.mem_cons.mp hid with rfl | hid
    · revert id'
      decide
    · rcases List.mem_append.mp hid with hid | hid
      · exact apart hid (hown id' (hpayload id' hid'))
      · rintro rfl
        exact (hset id hid).2 (hpayload id hid')

/-! ## §3. Payloads and scopes at depth 0. -/

/-- The scopes of a payload and the values found in them. -/
def Event.payload (_ : String) : Event → Option (ScopeStack × List FoundVariable)
  | .payloadSubstituted stack found _ => some (stack, found)
  | _ => none

/-- The names of the scopes of a payload, and what was found in them. -/
structure PayloadOf (around : List String) (counts : List (String × Nat))
    (p : ScopeStack × List FoundVariable) : Prop where
  ids : p.1.map (·.id) = around ++ idsOf counts ++ [stageScopeId, requestScopeId]
  backs : p.1.Backs p.2

/-- What was set by playbooks that ran before. -/
theorem PayloadOf.behind {stack assigned : ScopeStack} {counts counts' : List (String × Nat)}
    {p : ScopeStack × List FoundVariable} (ha : assigned.map (·.id) = idsOf counts)
    (h : PayloadOf ((stack ++ assigned).map (·.id)) counts' p) :
    PayloadOf (stack.map (·.id)) (counts ++ counts') p := by
  refine ⟨?_, h.backs⟩
  rw [h.ids, List.map_append, ha, idsOf_append, List.append_assoc (stack.map _)]

section Rules

variable {c : Setup} {t : Transport} {nested : Runner} {n : Nat} {playbook : String}

/-- A scope has the name that it was to have. -/
theorem Responses.extract_id {rs : Responses} {id : String} {request : HttpRequest} {reply : Reply}
    {scope : Scope} (h : rs.extract id request reply = .ok scope) : scope.id = id := by
  obtain ⟨made, -, rfl⟩ := Responses.exists_assignAll_of_extract h
  rw [Scope.assignAll_eq]
  rfl

/-- A stage fills in one payload, from the scopes around it and its own two. -/
theorem RequestRun.payloads {name : String} {index : Nat} {s : Stage} {outer : ScopeStack}
    {request : Request} {credentials : AuthResult} {m : Moment} {o : Outcome ScopeStack}
    (h : RequestRun c t playbook index s outer request credentials m o) :
    outermost Event.payload [.playbook name] o.trace
      = [((s.payload request outer).stack, (s.payload request outer).found)] := by
  cases h with
  | variablesMissing hp | notBuilt hp | notSent hp | unexpected hp | requestRulesFailed hp
  | stageRulesFailed hp | done hp =>
    subst hp
    rfl

/-- A request that is done sets the two scopes of its stage. -/
theorem RequestRun.ids {index : Nat} {s : Stage} {outer scopes : ScopeStack} {request : Request}
    {credentials : AuthResult} {m m' : Moment} {trace : List Event}
    (h : RequestRun c t playbook index s outer request credentials m ⟨some scopes, trace, m'⟩) :
    scopes.map (·.id) = stageIds playbook index := by
  cases h with
  | @done p http reply first second hp hn hb ha hu h₁ h₂ =>
    show [first.id, second.id] = _
    rw [Responses.extract_id h₁, Responses.extract_id h₂]
    rfl

/-- A payload sees the scopes around it and the two of the stage itself. -/
theorem Stage.payload_ids (s : Stage) (request : Request) (outer : ScopeStack) :
    (s.payload request outer).stack.map (·.id)
      = outer.map (·.id) ++ [stageScopeId, requestScopeId] := by
  unfold Stage.payload
  simp only [List.map_append, List.append_assoc]
  rfl

/-- A stage fills in at most one payload at its own depth. -/
theorem StageRun.payloads (hn : nested.Enclosed t n) {name : String} {index : Nat} {s : Stage}
    {outer : ScopeStack} {m : Moment} {o : Outcome ScopeStack}
    (h : StageRun c t nested playbook index s outer m o) :
    ∀ p ∈ outermost Event.payload [.playbook name] o.trace,
      p.1.map (·.id) = outer.map (·.id) ++ [stageScopeId, requestScopeId] ∧ p.1.Backs p.2 := by
  cases h with
  | noRequest hr => exact List.forall_mem_nil _
  | noCredentials hr hc =>
    rw [hc.outermost_behind hn (fun _ => rfl) fun _ => rfl]
    exact List.forall_mem_nil _
  | @ran ref request credentials trace m' o hr hc ho =>
    rw [hc.outermost_behind hn (fun _ => rfl) fun _ => rfl, ho.payloads]
    refine List.forall_mem_singleton.mpr ⟨s.payload_ids request outer, ?_⟩
    exact s.payload_backed request outer

theorem StageRun.ids {nested : Runner} {index : Nat} {s : Stage} {outer scopes : ScopeStack}
    {m m' : Moment} {trace : List Event}
    (h : StageRun c t nested playbook index s outer m ⟨some scopes, trace, m'⟩) :
    scopes.map (·.id) = stageIds playbook index := by
  generalize ho : (⟨some scopes, trace, m'⟩ : Outcome ScopeStack) = o at h
  cases h with
  | noRequest hr => cases ho
  | noCredentials hr hc => cases ho
  | @ran ref request credentials trace' m'' o hr hc hrun =>
    obtain ⟨v, trace, m⟩ := o
    cases ho
    exact hrun.ids

/-- What the stages of a playbook see, and what they set, after so many of them. -/
theorem StagesRun.origins (hn : nested.Enclosed t n) {stack assigned : ScopeStack} {index : Nat}
    {stages : List Stage} {m : Moment} {o : Outcome ScopeStack}
    (h : StagesRun c t nested playbook stack index assigned stages m o)
    (ha : assigned.map (·.id) = idsOf [(playbook, index)]) :
    (∀ p ∈ outermost Event.payload [.playbook playbook] o.trace, ∃ count,
      PayloadOf (stack.map (·.id)) [(playbook, count)] p) ∧
    ∀ scopes, o.value = some scopes → ∃ count, scopes.map (·.id) = idsOf [(playbook, count)] := by
  -- what a stage shows: the outer scopes and those of the stages before it
  have seen {assigned : ScopeStack} {index : Nat} {s : Stage} {m : Moment} {o : Outcome ScopeStack}
      (hs : StageRun c t nested playbook index s (stack ++ assigned) m o)
      (ha : assigned.map (·.id) = idsOf [(playbook, index)]) :
      ∀ p ∈ outermost Event.payload [.playbook playbook] o.trace, ∃ count,
        PayloadOf (stack.map (·.id)) [(playbook, count)] p := by
    intro p hp
    obtain ⟨hids, hbacks⟩ := hs.payloads hn p hp
    refine ⟨index, ?_, hbacks⟩
    rw [hids, List.map_append, ha]
  induction h with
  | @done index assigned m =>
    refine ⟨List.forall_mem_nil _, ?_⟩
    rintro scopes ⟨⟩
    exact ⟨index, ha⟩
  | failed hs => exact ⟨seen hs ha, by rintro scopes ⟨⟩⟩
  | @next index assigned scopes s rest m m' m'' trace trace' v hs hr ih =>
    -- a stage that is done adds its two scopes
    have hmore : (assigned ++ scopes).map (·.id) = idsOf [(playbook, index + 1)] := by
      rw [List.map_append, ha, hs.ids, idsOf_succ]
    have hframes : framesAfter [.playbook playbook] trace = [.playbook playbook] :=
      (hs.enclosed hn).frames _
    refine ⟨?_, (ih hmore).2⟩
    rw [outermost_append _ hframes]
    exact List.forall_mem_append.mpr ⟨seen hs ha, (ih hmore).1⟩

/-- A playbook shows and sets what its stages do. -/
theorem PlaybookRun.origins (hn : nested.Enclosed t n) {stages : List Stage} {stack : ScopeStack}
    {m : Moment} {o : Outcome ScopeStack} (h : PlaybookRun c t nested playbook stages stack m o) :
    (∀ p ∈ outermost Event.payload [] o.trace, ∃ count,
      PayloadOf (stack.map (·.id)) [(playbook, count)] p) ∧
    ∀ scopes, o.value = some scopes → ∃ count, scopes.map (·.id) = idsOf [(playbook, count)] := by
  cases h with
  | failed hs => exact ⟨(hs.origins hn rfl).1, by rintro scopes ⟨⟩⟩
  | @finished _ trace _ hs =>
    have hframes : framesAfter [.playbook playbook] trace = [.playbook playbook] :=
      (hs.enclosed hn).frames _
    refine ⟨?_, ?_⟩
    · show ∀ p ∈ outermost Event.payload [.playbook playbook] (trace ++ [.playbookFinished]), _
      rw [outermost_append _ hframes]
      exact List.forall_mem_append.mpr ⟨(hs.origins hn rfl).1, List.forall_mem_nil _⟩
    · rintro scopes ⟨⟩
      exact (hs.origins hn rfl).2 _ rfl

/-- Each playbook adds its own names to those of the ones before it. -/
theorem PlaybooksRun.origins {stack assigned v : ScopeStack} {ps : List Playbook}
    {m m' : Moment} {trace : List Event} (h : PlaybooksRun c t stack assigned ps m v trace m')
    {counts : List (String × Nat)} (ha : assigned.map (·.id) = idsOf counts)
    (hnames : (counts.map (·.1) ++ namesToRun ps).Nodup) :
    (∀ p ∈ outermost Event.payload [] trace, ∃ counts, (counts.map (·.1)).Nodup ∧
      PayloadOf (stack.map (·.id)) counts p) ∧
    ∃ counts, (counts.map (·.1)).Nodup ∧ v.map (·.id) = idsOf counts := by
  have playbook {assigned : ScopeStack} {p : Playbook} {m : Moment} {o : Outcome ScopeStack}
      (ho : (c.playbookAt 0 p.name p.stages (stack ++ assigned)).outcome t m = o) :
      (∀ q ∈ outermost Event.payload [] o.trace, ∃ count,
        PayloadOf ((stack ++ assigned).map (·.id)) [(p.name, count)] q) ∧
      ∀ scopes, o.value = some scopes →
        ∃ count, scopes.map (·.id) = idsOf [(p.name, count)] := by
    subst ho
    exact (playbookRun_playbookAt c t p.name p.stages (stack ++ assigned) m).origins
      (playbookWithin_enclosed c t (maxDepth - 1) 1)
  -- the playbooks that have set something are those in front of the ones left to run
  induction h generalizing counts with
  | done => exact ⟨List.forall_mem_nil _, counts, (List.nodup_append.mp hnames).1, ha⟩
  | @passedOver assigned v p rest m m' trace hp hr ih =>
    refine ih ha ?_
    simpa [namesToRun, hp] using hnames
  | @halted assigned p rest m m' trace hp hn =>
    rw [namesToRun_cons hp, List.append_cons] at hnames
    have hdone := (List.nodup_append.mp hnames).1
    refine ⟨fun q hq => ?_, counts, (List.nodup_append.mp hdone).1, ha⟩
    obtain ⟨count, hpayload⟩ := (playbook hn).1 q hq
    exact ⟨counts ++ [(p.name, count)], by rwa [List.map_append], hpayload.behind ha⟩
  | @next assigned scopes v p rest m m' m'' trace trace' hp hn hr ih =>
    rw [namesToRun_cons hp, List.append_cons] at hnames
    have hdone := (List.nodup_append.mp hnames).1
    have hb : Balanced trace := ((playbookAt_enclosed c t 0).of_outcome hn).balanced
    obtain ⟨hseen, hset⟩ := playbook hn
    obtain ⟨count, hscopes⟩ := hset scopes rfl
    have hmore : (assigned ++ scopes).map (·.id) = idsOf (counts ++ [(p.name, count)]) := by
      rw [List.map_append, ha, hscopes, idsOf_append]
    obtain ⟨hrest, hvalue⟩ := ih hmore (by rwa [List.map_append])
    refine ⟨?_, hvalue⟩
    rw [outermost_append _ (hb [])]
    refine List.forall_mem_append.mpr ⟨fun q hq => ?_, hrest⟩
    obtain ⟨count, hpayload⟩ := hseen q hq
    exact ⟨counts ++ [(p.name, count)], by rwa [List.map_append], hpayload.behind ha⟩

end Rules

/-! ## §4. Whole runs. -/

/-- The names of scopes tell apart those of each payload at depth 0, and those that the
run sets. -/
structure Unambiguous (trace : List Event) (value : ScopeStack) : Prop where
  /-- No two scopes of a payload at depth 0 have the same name. -/
  payload : ∀ playbook stack found missing,
    ([.playbook playbook], .payloadSubstituted stack found missing) ∈ framed [] trace →
      (stack.map (·.id)).Nodup
  /-- So the origin of a value found there is one scope, and that scope has the value. -/
  origin : ∀ playbook stack found missing,
    ([.playbook playbook], .payloadSubstituted stack found missing) ∈ framed [] trace →
      ∀ f ∈ found, ∃ scope ∈ stack, scope.id = f.origin ∧
        scope.vars.get? f.name = some f.value ∧ ∀ other ∈ stack, other.id = f.origin → other = scope
  /-- No two scopes that the run sets have the same name. -/
  value : (value.map (·.id)).Nodup

/-- The imported variables are in one scope, of a fixed name. -/
theorem Bundle.importEnvironment_id (b : Bundle) (values : RuntimeValues) :
    (b.importEnvironment values).scope.id = EnvironmentDecl.scopeId := by
  unfold Bundle.importEnvironment
  split <;> rfl

/-- **ORIGINS ARE UNAMBIGUOUS**: whatever the playbooks are called, if only no two of those
with stages have one name, and the scopes around the run have names of their own. -/
theorem unambiguous_runAll (c : Setup) (t : Transport) (values : RuntimeValues)
    (extra : ScopeStack) (ps : List Playbook) (hnames : (namesToRun ps).Nodup)
    (hextra : (extra.map (·.id)).Nodup) (hfree : ∀ s ∈ extra, isReservedId s.id = false) :
    Unambiguous ((c.runAll values extra ps).run t []).trace
      ((c.runAll values extra ps).run t []).value := by
  obtain ⟨m, hrun, -⟩ := playbooksRun_runAll c t values extra ps
  generalize ((c.runAll values extra ps).run t []).trace = trace at hrun ⊢
  have hstart : ([] : ScopeStack).map (·.id) = idsOf [] := rfl
  obtain ⟨hpayloads, counts, hcounts, hvalue⟩ := hrun.origins hstart hnames
  -- every stack that is told of has the id of the environment, then the given ids, then those of
  -- stages
  have hseen : ∀ playbook stack found missing,
      ([.playbook playbook], .payloadSubstituted stack found missing) ∈ framed [] trace →
        (stack.map (·.id)).Nodup ∧ stack.Backs found := by
    intro playbook stack found missing hmem
    have hp : (stack, found) ∈ outermost Event.payload [] trace :=
      List.mem_filterMap.mpr ⟨_, hmem, rfl⟩
    obtain ⟨counts, hcounts, hids, hbacks⟩ := hpayloads _ hp
    refine ⟨?_, hbacks⟩
    rw [hids, List.map_append, List.map_singleton, Bundle.importEnvironment_id]
    exact payloadIds_nodup hextra (by simpa using hfree) hcounts
  refine ⟨?_, ?_, ?_⟩
  · intro playbook stack found missing hmem
    exact (hseen playbook stack found missing hmem).1
  · intro playbook stack found missing hmem f hf
    obtain ⟨hnodup, hbacks⟩ := hseen playbook stack found missing hmem
    obtain ⟨scope, hscope, hid, hv⟩ := hbacks f hf
    refine ⟨scope, hscope, hid, hv, fun other ho he => ?_⟩
    -- with different ids the scope is told by its id
    exact List.inj_on_of_nodup_map hnodup ho hscope (he.trans hid.symm)
  · rw [hvalue]
    exact idsOf_nodup hcounts

/-- One request that stands on its own. -/
def greetingSetup : Setup :=
  let greeting : Request := ⟨none, .empty, [], .ofStatus 200, .empty,
    ⟨some "coap://host/{{user}}", none, ⟨.empty, .empty, .empty, .empty⟩, none⟩⟩
  ⟨⟨.empty, .ofList [("greeting", greeting)], [], [], [], .empty, none⟩, ⟨.null⟩, ""⟩

/-- Two playbooks, the second called as the first calls a scope of its own. -/
def greetingPlaybooks : List Playbook :=
  let greeting : Stage := .ofRef ⟨.request, "greeting"⟩
  [⟨"a", [greeting]⟩, ⟨"a-step-0", [greeting]⟩]

/-- The scope of what was given on the command line. -/
def greetingInputs : ScopeStack := [.ofVariables "inputs" (.ofList [("user", .string "u")])]

/-- Two playbooks, one of them named like a stage of the other. -/
theorem unambiguous_runAll_greetings :
    (namesToRun greetingPlaybooks).Nodup ∧ (greetingInputs.map (·.id)).Nodup ∧
      (∀ s ∈ greetingInputs, isReservedId s.id = false) ∧
      ((greetingSetup.runAll ⟨.empty, .empty⟩ greetingInputs greetingPlaybooks).run .mock
        []).value.map (·.id) = ["playbook-a-step-0-request", "playbook-a-step-0",
          "playbook-a-step-0-step-0-request", "playbook-a-step-0-step-0"] ∧
      Unambiguous
        ((greetingSetup.runAll ⟨.empty, .empty⟩ greetingInputs greetingPlaybooks).run .mock
          []).trace
        ((greetingSetup.runAll ⟨.empty, .empty⟩ greetingInputs greetingPlaybooks).run .mock
          []).value := by
  have hnames : (namesToRun greetingPlaybooks).Nodup := by decide
  have hextra : (greetingInputs.map (·.id)).Nodup := by decide
  have hfree : ∀ s ∈ greetingInputs, isReservedId s.id = false :=
    List.forall_mem_singleton.mpr (by decide)
  exact ⟨hnames, hextra, hfree, by decide +kernel,
    unambiguous_runAll greetingSetup .mock ⟨.empty, .empty⟩ greetingInputs greetingPlaybooks hnames
      hextra hfree⟩

end ApiPlaybook
