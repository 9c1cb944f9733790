/-
  ApiPlaybook.Proofs.Run.Unwinding
  ────────────────────────────────
  **A FAILURE ENDS THE RUN.**

  A run fails at one point.  That point shows in the trace as the first closing
  event: a failure, or values put in place of which some are missing.  Behind it
  the failure is passed on through everything that is open, and nothing else
  happens: all later events are failures (`Broken`).  A run without a closing
  event did not fail (`Clean`).
-/
import ApiPlaybook.Proofs.Run.Rules

namespace ApiPlaybook

/-! ## §1. Clean and broken traces. -/

/-- Whether an event shows that what is open is going to fail. -/
def Event.isClosing : Event → Bool
  | .credentialSubstituted _ _ _ _ missing | .payloadSubstituted _ _ missing => !missing.isEmpty
  | e => e.isFailure

/-- Every failure closes what it happens in. -/
theorem Event.isClosing_of_isFailure {e : Event} (h : e.isFailure = true) :
    e.isClosing = true := by
  cases e <;> first | exact h | cases h

/-- Nothing fails. -/
def Clean (trace : List Event) : Prop := ∀ e ∈ trace, e.isClosing = false

/-- Something fails, and only failures follow. -/
def Broken (trace : List Event) : Prop :=
  ∃ before e after, trace = before ++ e :: after ∧ Clean before ∧ e.isClosing = true ∧
    (∀ e' ∈ after, e'.isFailure = true) ∧ ∃ e' ∈ e :: after, e'.isFailure = true

theorem Clean.nil : Clean [] := by
  intro e he
  cases he

theorem Clean.single {e : Event} (h : e.isClosing = false) : Clean [e] :=
  List.forall_mem_singleton.mpr h

theorem Clean.append {a b : List Event} (ha : Clean a) (hb : Clean b) : Clean (a ++ b) :=
  List.forall_mem_append.mpr ⟨ha, hb⟩

theorem Clean.isFailure_eq {trace : List Event} (h : Clean trace) :
    ∀ e ∈ trace, e.isFailure = false := by
  intro e he
  cases hf : e.isFailure with
  | false => rfl
  | true =>
    have hclean := h e he
    rw [Event.isClosing_of_isFailure hf] at hclean
    cases hclean

/-- Clean events in front leave the first closing event the first. -/
theorem Clean.append_broken {a b : List Event} (ha : Clean a) (hb : Broken b) :
    Broken (a ++ b) := by
  obtain ⟨before, e, after, rfl, hc, h⟩ := hb
  exact ⟨a ++ before, e, after, by rw [List.append_assoc], ha.append hc, h⟩

/-- A failure is passed on. -/
theorem Broken.append {a b : List Event} (ha : Broken a) (hb : ∀ e ∈ b, e.isFailure = true) :
    Broken (a ++ b) := by
  obtain ⟨before, e, after, rfl, hc, he, hafter, e', he', hf⟩ := ha
  refine ⟨before, e, after ++ b, by rw [List.append_assoc]; rfl, hc, he,
    List.forall_mem_append.mpr ⟨hafter, hb⟩, e', ?_, hf⟩
  rw [← List.cons_append]
  exact List.mem_append_left b he'

/-- A failure by itself closes what it happens in. -/
theorem Broken.of_failure {e : Event} (h : e.isFailure = true) : Broken [e] :=
  ⟨[], e, [], rfl, .nil, Event.isClosing_of_isFailure h, by simp, e, List.mem_cons_self, h⟩

/-- Values of which some are missing, and the failure that follows. -/
theorem Broken.of_missing {e e' : Event} (h : e.isClosing = true) (h' : e'.isFailure = true) :
    Broken [e, e'] :=
  ⟨[], e, [e'], rfl, .nil, h, by simpa using h', e', by simp, h'⟩

/-- What is broken has an event of a failure. -/
theorem Broken.fails {trace : List Event} (h : Broken trace) : ∃ e ∈ trace, e.isFailure = true := by
  obtain ⟨before, e, after, rfl, -, -, -, e', he', hf⟩ := h
  exact ⟨e', List.mem_append_right before he', hf⟩

/-- Behind a closing event there are only failures. -/
theorem Broken.after {trace before after : List Event} {e : Event} (h : Broken trace)
    (ht : trace = before ++ e :: after) (he : e.isClosing = true) :
    ∀ e' ∈ after, e'.isFailure = true := by
  obtain ⟨a, d, b, rfl, ha, -, hb, -⟩ := h
  rcases List.append_eq_append_iff.mp ht with ⟨x, hx, hd⟩ | ⟨x, hx, hd⟩
  · -- the first closing event stands before the one at hand, or is it
    cases x with
    | nil =>
      cases hd
      exact hb
    | cons _ x =>
      rw [List.cons_append] at hd
      obtain ⟨-, rfl⟩ := List.cons.inj hd
      intro e' he'
      exact hb e' (List.mem_append_right x (List.mem_cons_of_mem e he'))
  · -- an event before it would have to be clean
    cases x with
    | nil =>
      cases hd
      exact hb
    | cons _ x =>
      rw [List.cons_append] at hd
      obtain ⟨rfl, -⟩ := List.cons.inj hd
      have hclean := ha e (by rw [hx]; exact List.mem_append_right before List.mem_cons_self)
      rw [he] at hclean
      cases hclean

/-- However a trace ends, behind a closing event there are only failures. -/
theorem failures_follow {trace before after : List Event} {e : Event}
    (h : Clean trace ∨ Broken trace) (ht : trace = before ++ e :: after)
    (he : e.isClosing = true) : ∀ e' ∈ after, e'.isFailure = true := by
  rcases h with h | h
  · have hclean := h e (by rw [ht]; exact List.mem_append_right before List.mem_cons_self)
    rw [he] at hclean
    cases hclean
  · exact h.after ht he

/-! ## §2. Every part of a run is clean or broken. -/

/-- The playbooks that a runner runs are clean when they finish, and broken when
they fail. -/
def Runner.Unwinds (nested : Runner) (t : Transport) : Prop :=
  nested.Keeps t (fun _ _ => Clean) (fun _ _ => Broken)

section Rules

variable {c : Setup} {t : Transport} {nested : Runner}

/-- Where the scopes of a credential were had, nothing failed on the way. -/
theorem AcquisitionRun.clean (hn : nested.Unwinds t) {auth : String} {method : CredentialMethod}
    {stack scopes : ScopeStack} {m m' : Moment} {trace : List Event}
    (h : AcquisitionRun t nested auth method stack m scopes trace m') : Clean trace := by
  cases h with
  | direct hs => exact .nil
  | staged hs ho => exact hn.done ho

/-- A credential that fails says so last, behind what failed inside it. -/
theorem CredentialRun.unwinds (hn : nested.Unwinds t) {auth : String} {stack : ScopeStack}
    {m : Moment} {o : Outcome ResolvedCredential} (h : CredentialRun c t nested stack auth m o) :
    o.Keeps Clean Broken := by
  have started : Clean [.authStarted auth] := .single rfl
  cases h with
  | unknown hm => exact started.append_broken (.of_failure rfl)
  | kept hm hk =>
    show Clean _
    simp [Clean, Event.isClosing, Event.isFailure]
  | notAcquired hm hk hs ho =>
    exact (started.append_broken (hn.failed ho)).append (by simp [Event.isFailure])
  | incomplete hm hk ha hf hmissing =>
    exact (started.append (ha.clean hn)).append_broken
      (.of_missing (by simpa [Event.isClosing] using hmissing) rfl)
  | obtained hm hk ha hf hmissing =>
    exact (started.append (ha.clean hn)).append (by simp [Clean, Event.isClosing, Event.isFailure])

/-- The credentials before the one that fails are clean. -/
theorem CredentialsRun.unwinds (hn : nested.Unwinds t) {auths : List String} {stack : ScopeStack}
    {result : AuthResult} {m : Moment} {o : Outcome AuthResult}
    (h : CredentialsRun c t nested stack auths result m o) : o.Keeps Clean Broken := by
  induction h with
  | done => exact Clean.nil
  | failed hc => exact hc.unwinds hn
  | @next _ _ _ _ _ _ _ _ _ v hc hr ih =>
    have hc : Clean _ := hc.unwinds hn
    cases v with
    | some v =>
      show Clean (_ ++ _)
      exact hc.append ih
    | none =>
      show Broken (_ ++ _)
      exact hc.append_broken ih

/-- A request has at most one failure, and that one comes last. -/
theorem RequestRun.unwinds {playbook : String} {index : Nat} {s : Stage} {outer : ScopeStack}
    {request : Request} {credentials : AuthResult} {m : Moment} {o : Outcome ScopeStack}
    (h : RequestRun c t playbook index s outer request credentials m o) :
    o.Keeps Clean Broken := by
  -- what stands before the failure, for each place at which it may come
  have sent {p : Payload} (hn : p.missing = []) (rest : List Event)
      (hr : ∀ e ∈ rest, e.isClosing = false) : Clean (p.report :: rest) := by
    refine List.forall_mem_cons.mpr ⟨?_, hr⟩
    simp [Payload.report, Event.isClosing, hn]
  cases h with
  | variablesMissing hp hn =>
    exact .of_missing (by simpa [Payload.report, Event.isClosing] using hn) rfl
  | notBuilt hp hn hb => exact (sent hn [] (by simp)).append_broken (.of_failure rfl)
  | @notSent p http e hp hn hb ha =>
    exact (sent hn [.requestPrepared http request.operationId]
      (by simp [Event.isClosing, Event.isFailure])).append_broken (.of_failure rfl)
  | @unexpected p http reply e hp hn hb ha hu =>
    exact (sent hn [.requestPrepared http request.operationId, .responseReceived reply]
      (by simp [Event.isClosing, Event.isFailure])).append_broken (.of_failure rfl)
  | @requestRulesFailed p http reply e hp hn hb ha hu h₁ =>
    exact (sent hn [.requestPrepared http request.operationId, .responseReceived reply]
      (by simp [Event.isClosing, Event.isFailure])).append_broken (.of_failure rfl)
  | @stageRulesFailed p http reply first e hp hn hb ha hu h₁ h₂ =>
    exact (sent hn [.requestPrepared http request.operationId, .responseReceived reply,
      .variablesAssigned first]
      (by simp [Event.isClosing, Event.isFailure])).append_broken (.of_failure rfl)
  | done hp hn hb ha hu h₁ h₂ =>
    exact sent hn _ (by simp [Event.isClosing, Event.isFailure])

/-- A stage whose credentials fail adds its own failure; one whose request fails adds none. -/
theorem StageRun.unwinds (hn : nested.Unwinds t) {playbook : String} {index : Nat} {s : Stage}
    {outer : ScopeStack} {m : Moment} {o : Outcome ScopeStack}
    (h : StageRun c t nested playbook index s outer m o) : o.Keeps Clean Broken := by
  have started (ref : RequestRef) : Clean [.requestStarted ref] := .single rfl
  cases h with
  | noRequest hr => exact Broken.of_failure rfl
  | @noCredentials ref request trace m' hr hc =>
    have hc : Broken trace := hc.unwinds hn
    exact ((started ref).append_broken hc).append (by simp [Event.isFailure])
  | @ran ref request credentials trace m' o hr hc ho =>
    have hc : Clean trace := hc.unwinds hn
    have ho := ho.unwinds
    obtain ⟨v, trace', m''⟩ := o
    -- the credentials were had, so the request decides
    cases v with
    | some v =>
      show Clean ([.requestStarted ref] ++ trace ++ trace')
      exact ((started ref).append hc).append ho
    | none =>
      show Broken ([.requestStarted ref] ++ trace ++ trace')
      exact ((started ref).append hc).append_broken ho

/-- The stages before the one that fails are clean. -/
theorem StagesRun.unwinds (hn : nested.Unwinds t) {playbook : String}
    {stack assigned : ScopeStack} {index : Nat} {stages : List Stage} {m : Moment}
    {o : Outcome ScopeStack} (h : StagesRun c t nested playbook stack index assigned stages m o) :
    o.Keeps Clean Broken := by
  induction h with
  | done => exact Clean.nil
  | failed hs => exact hs.unwinds hn
  | @next _ _ _ _ _ _ _ _ _ _ v hs hr ih =>
    have hs : Clean _ := hs.unwinds hn
    cases v with
    | some v =>
      show Clean (_ ++ _)
      exact hs.append ih
    | none =>
      show Broken (_ ++ _)
      exact hs.append_broken ih

/-- A playbook that fails adds nothing behind the failure of its stage. -/
theorem PlaybookRun.unwinds (hn : nested.Unwinds t) {name : String} {stages : List Stage}
    {stack : ScopeStack} {m : Moment} {o : Outcome ScopeStack}
    (h : PlaybookRun c t nested name stages stack m o) : o.Keeps Clean Broken := by
  have started : Clean [.playbookStarted name] := .single rfl
  cases h with
  | failed hs =>
    show Broken ([.playbookStarted name] ++ _)
    exact started.append_broken (hs.unwinds hn)
  | finished hs =>
    have hs : Clean _ := hs.unwinds hn
    show Clean ([.playbookStarted name] ++ _ ++ [.playbookFinished])
    exact (started.append hs).append (by simp [Clean, Event.isClosing, Event.isFailure])

end Rules

section Playbooks

variable (c : Setup) (t : Transport)

/-- By induction on the levels that are left, what fails deep inside closes all the way out. -/
theorem playbookWithin_unwinds (levels depth : Nat) :
    Runner.Unwinds (c.playbookWithin levels depth) t := by
  refine playbookWithin_induction c t (P := fun _ _ _ _ o => o.Keeps Clean Broken)
    ?_ ?_ levels depth
  · intro name stages m
    show Broken ([.playbookStarted name] ++ [.playbookAborted .tooDeep])
    exact (Clean.single rfl).append_broken (.of_failure rfl)
  · intro levels depth ih name stages stack m o h
    exact h.unwinds ih

theorem playbookAt_unwinds (depth : Nat) : Runner.Unwinds (c.playbookAt depth) t :=
  playbookWithin_unwinds c t (maxDepth - depth) depth

/-- A run of playbooks is clean, or one of them failed. -/
theorem PlaybooksRun.clean_or_broken {c : Setup} {t : Transport} {stack assigned v : ScopeStack}
    {ps : List Playbook} {m m' : Moment} {trace : List Event}
    (h : PlaybooksRun c t stack assigned ps m v trace m') : Clean trace ∨ Broken trace := by
  induction h with
  | done => exact .inl .nil
  | passedOver hp hr ih => exact ih
  | halted hp hn => exact .inr ((playbookAt_unwinds c t 0).failed hn)
  | next hp hn hr ih =>
    have hc : Clean _ := (playbookAt_unwinds c t 0).done hn
    exact ih.imp hc.append hc.append_broken

end Playbooks

end ApiPlaybook
