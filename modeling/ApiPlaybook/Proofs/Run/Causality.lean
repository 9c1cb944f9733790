/-
  ApiPlaybook.Proofs.Run.Causality
  ────────────────────────────────
  **NOTHING DEPENDS ON AN ANSWER THAT HAS NOT COME.**

  A course is the same whatever transport it is run with, so two runs of it can
  only part at an answer that differs (`Course.Announced.sameUntil`).  That they
  are the same up to the *report* of the next request takes more: every request
  is reported before it is sent, and nothing else stands between (`Announced`).
  The courses of all runs are of this form, because the steps that they are made
  of are (`announced_runAll`).

      with the same first answers two runs report the same up to the next
      request, and a cancelled run has reported the beginning of the whole one
      (`causal_runAll`).
-/
import ApiPlaybook.Proofs.Run.Rules

namespace ApiPlaybook

variable {α β : Type}

/-! ## §1. Answers, and the trace up to a request. -/

/-- The answers that a course gets. -/
def Course.answers (t : Transport) : List HttpRequest → Course α → List TransportAnswer
  | _, .done _ => []
  | sent, .report _ next => answers t sent next
  | sent, .warn _ next => answers t sent next
  | sent, .send request next =>
    t sent request :: answers t (sent ++ [request]) (next (t sent request))

/-- The first `k` answers are the same, as far as both sides get them. -/
def SameAnswers (k : Nat) (answers answers' : List TransportAnswer) : Prop :=
  ∀ i < k, ∀ a a', answers[i]? = some a → answers'[i]? = some a' → a = a'

/-- Whether an event reports a request that is to be sent. -/
def Event.preparesRequest : Event → Bool
  | .requestPrepared _ _ => true
  | _ => false

/-- How many requests a trace reports. -/
def preparedCount (trace : List Event) : Nat := trace.countP Event.preparesRequest

/-- A trace up to the report of its next request, behind `k` others. -/
def throughPrepared : Nat → List Event → List Event
  | _, [] => []
  | 0, e :: rest => if e.preparesRequest then [e] else e :: throughPrepared 0 rest
  | k + 1, e :: rest =>
    e :: throughPrepared (if e.preparesRequest then k else k + 1) rest

/-- The report of the request itself still belongs to it. -/
example (r : HttpRequest) (reply : Reply) :
    throughPrepared 1 [.requestPrepared r none, .responseReceived reply, .requestPrepared r none,
      .responseReceived reply]
    = [.requestPrepared r none, .responseReceived reply, .requestPrepared r none] := rfl

section Traces

variable {k : Nat} {a a' : TransportAnswer} {answers answers' : List TransportAnswer}
  {e : Event} {trace : List Event}

/-- The first answers agree where at least one has to. -/
theorem SameAnswers.head (h : SameAnswers (k + 1) (a :: answers) (a' :: answers')) : a = a' :=
  h 0 (Nat.succ_pos k) a a' rfl rfl

/-- Behind the first answer one fewer has to agree. -/
theorem SameAnswers.tail (h : SameAnswers (k + 1) (a :: answers) (a' :: answers')) :
    SameAnswers k answers answers' :=
  fun i hi => h (i + 1) (Nat.succ_lt_succ hi)

/-- A common answer in front of both lists. -/
theorem SameAnswers.cons (a : TransportAnswer) (h : SameAnswers k answers answers') :
    SameAnswers (k + 1) (a :: answers) (a :: answers') := by
  intro i hi b b' hb hb'
  cases i with
  | zero => exact Option.some.inj (hb.symm.trans hb')
  | succ i => exact h i (Nat.lt_of_succ_lt_succ hi) b b' hb hb'

/-- An event that prepares no request is let through without being counted. -/
theorem throughPrepared_cons (he : e.preparesRequest = false) :
    throughPrepared k (e :: trace) = e :: throughPrepared k trace := by
  cases k with
  | zero => rw [throughPrepared, if_neg (by simp [he])]
  | succ k => rw [throughPrepared, if_neg (by simp [he])]

/-- Such an event does not count among the prepared requests. -/
theorem preparedCount_cons (he : e.preparesRequest = false) :
    preparedCount (e :: trace) = preparedCount trace :=
  List.countP_cons_of_neg (by simp [he])

end Traces

/-! ## §2. Courses that report their requests. -/

/-- Every request is reported just before it is sent, and no other one is. -/
inductive Course.Announced : Course α → Prop where
  | done (v : α) : Announced (.done v)
  | report {e : Event} {next : Course α} (he : e.preparesRequest = false)
      (h : Announced next) : Announced (.report e next)
  | warn {w : Warning} {next : Course α} (h : Announced next) : Announced (.warn w next)
  | send {request : HttpRequest} {operation : Option String} {next : TransportAnswer → Course α}
      (h : ∀ a, Announced (next a)) :
      Announced (.report (.requestPrepared request operation) (.send request next))

/-- Two runs that are the same up to a request, behind `k` others. -/
structure Ran.SameUntil (k : Nat) (ran ran' : Ran α) : Prop where
  /-- The same is reported up to that request. -/
  trace : throughPrepared k ran.trace = throughPrepared k ran'.trace
  /-- The requests up to it are the same. -/
  sent : ran.sent.take (k + 1) = ran'.sent.take (k + 1)
  /-- If there is no such request, the runs are the same in everything. -/
  whole : preparedCount ran.trace ≤ k → ran = ran'

namespace Course

/-- What was sent before a course stays the beginning of what was sent. -/
theorem sent_isPrefix (t : Transport) (sent : List HttpRequest) (c : Course α) :
    List.IsPrefix sent (c.run t sent).sent := by
  induction c generalizing sent with
  | done v => exact List.prefix_refl sent
  | report e next ih => exact ih sent
  | warn w next ih => exact ih sent
  | send request next ih =>
    exact (List.prefix_append sent [request]).trans (ih _ (sent ++ [request]))

namespace Announced

variable {c : Course α}

/-- What follows is announced with whatever value the first part returns. -/
theorem bind {f : α → Course β} (h : c.Announced) (hf : ∀ v, (f v).Announced) :
    (c >>= f).Announced := by
  induction h with
  | done v => exact hf v
  | report he _ ih => exact .report he ih
  | warn _ ih => exact .warn ih
  | send _ ih => exact .send ih

theorem warnAll (ws : List Warning) : (Course.warnAll ws).Announced := by
  induction ws with
  | nil => exact .done ()
  | cons w rest ih => exact .warn ih

/-- A warning that depends on a condition. -/
theorem unless_warn (b : Bool) (ws : List Warning) (h : c.Announced) :
    (if b = true then c else Course.warnAll ws >>= fun _ => c).Announced := by
  cases b with
  | true => exact h
  | false => exact (warnAll ws).bind fun _ => h

/-- **TWO RUNS PART AT AN ANSWER**, and not before: up to the request behind the answers
that are the same. -/
theorem sameUntil (h : c.Announced) (t t' : Transport) (k : Nat) (sent : List HttpRequest)
    (hk : SameAnswers k (c.answers t sent) (c.answers t' sent)) :
    throughPrepared k (c.run t sent).trace = throughPrepared k (c.run t' sent).trace ∧
      (c.run t sent).sent.take (sent.length + k + 1)
        = (c.run t' sent).sent.take (sent.length + k + 1) ∧
      (preparedCount (c.run t sent).trace ≤ k → c.run t sent = c.run t' sent) := by
  -- both runs have sent the same so far; with every answer there is one fewer to agree on
  induction h generalizing k sent with
  | done v => exact ⟨rfl, rfl, fun _ => rfl⟩
  | @report e next he _ ih =>
    obtain ⟨htrace, hsent, hwhole⟩ := ih k sent hk
    refine ⟨?_, hsent, fun hcount => ?_⟩
    · show throughPrepared k (e :: _) = throughPrepared k (e :: _)
      rw [throughPrepared_cons he, throughPrepared_cons he, htrace]
    · have hcount : preparedCount (e :: (next.run t sent).trace) ≤ k := hcount
      rw [preparedCount_cons he] at hcount
      simp only [Course.run, hwhole hcount]
  | @warn w next _ ih =>
    obtain ⟨htrace, hsent, hwhole⟩ := ih k sent hk
    refine ⟨htrace, hsent, fun hcount => ?_⟩
    simp only [Course.run, hwhole hcount]
  | @send request operation next _ ih =>
    cases k with
    | zero =>
      -- nothing is known of the answer, but the request was reported before it
      refine ⟨rfl, ?_, fun hcount => ?_⟩
      · have hfirst (t : Transport) :
            List.take (sent.length + 0 + 1)
              ((Course.send request next).run t sent).sent = sent ++ [request] := by
          have hp := sent_isPrefix t (sent ++ [request]) (next (t sent request))
          have htake := List.prefix_iff_eq_take.mp hp
          rw [List.length_append, List.length_singleton] at htake
          exact htake.symm
        show List.take _ ((Course.send request next).run t sent).sent
          = List.take _ ((Course.send request next).run t' sent).sent
        rw [hfirst, hfirst]
      · have hpos : preparedCount (.requestPrepared request operation ::
            ((Course.send request next).run t sent).trace) ≤ 0 := hcount
        simp [preparedCount, Event.preparesRequest] at hpos
    | succ k =>
      have ha : t sent request = t' sent request := hk.head
      have htail := hk.tail
      rw [← ha] at htail
      obtain ⟨htrace, hsent, hwhole⟩ := ih _ k (sent ++ [request]) htail
      rw [List.length_append, List.length_singleton] at hsent
      refine ⟨?_, ?_, fun hcount => ?_⟩
      · show _ :: throughPrepared k ((next (t sent request)).run t (sent ++ [request])).trace
          = _ :: throughPrepared k ((next (t' sent request)).run t' (sent ++ [request])).trace
        rw [← ha, htrace]
      · show ((next (t sent request)).run t (sent ++ [request])).sent.take _
          = ((next (t' sent request)).run t' (sent ++ [request])).sent.take _
        rw [← ha, ← Nat.add_assoc, Nat.add_right_comm sent.length k 1, hsent]
      · have hcount : preparedCount (.requestPrepared request operation ::
            ((next (t sent request)).run t (sent ++ [request])).trace) ≤ k + 1 := hcount
        rw [preparedCount, List.countP_cons_of_pos rfl] at hcount
        simp only [Course.run]
        rw [← ha, hwhole (Nat.le_of_succ_le_succ hcount)]

end Announced

/-- Transports that answer the first requests in the same way, whatever these are, give a
course the same first answers. -/
theorem sameAnswers {t t' : Transport} (k : Nat) (sent : List HttpRequest) (c : Course α)
    (h : ∀ before request, before.length < sent.length + k →
      t before request = t' before request) :
    SameAnswers k (c.answers t sent) (c.answers t' sent) := by
  induction c generalizing k sent with
  | done v => exact fun _ _ _ _ ha => nomatch ha
  | report e next ih => exact ih k sent h
  | warn w next ih => exact ih k sent h
  | send request next ih =>
    cases k with
    | zero => exact fun i hi => absurd hi (Nat.not_lt_zero i)
    | succ k =>
      -- the first answer is the same; one fewer has to be for what is sent behind it
      have ha : t sent request = t' sent request := h sent request (by omega)
      have hlength : (sent ++ [request]).length = sent.length + 1 := List.length_append
      have htail := ih (t sent request) k (sent ++ [request]) fun before r hr =>
        h before r (by omega)
      show SameAnswers (k + 1) (t sent request :: answers t _ (next (t sent request)))
        (t' sent request :: answers t' _ (next (t' sent request)))
      rw [← ha]
      exact htail.cons _

/-- A cancelled course has reported the beginning of what the whole one reports. -/
theorem runUntil_eq_take (t : Transport) (n : Nat) (sent : List HttpRequest) (c : Course α) :
    c.runUntil t n sent = (c.run t sent).trace.take n := by
  -- only an event that is reported counts towards `n`
  induction c generalizing n sent with
  | done v => cases n <;> rfl
  | report e next ih =>
    cases n with
    | zero => rfl
    | succ n =>
      show e :: next.runUntil t n sent = e :: (next.run t sent).trace.take n
      rw [ih]
  | warn w next ih =>
    cases n with
    | zero => rfl
    | succ n => exact ih (n + 1) sent
  | send request next ih =>
    cases n with
    | zero => rfl
    | succ n => exact ih _ (n + 1) (sent ++ [request])

end Course

/-! ## §3. Steps that report their requests. -/

/-- Whatever credentials there are, the course of the step reports its requests. -/
def Step.Announced (x : Step α) : Prop := ∀ cache, (x.run.run cache).Announced

namespace Step.Announced

theorem pure (v : α) : Step.Announced (Pure.pure v) := fun _ => .done _

/-- Steps are announced one after another, also where the first one fails. -/
theorem bind {x : Step α} {f : α → Step β} (h : x.Announced) (hf : ∀ v, (f v).Announced) :
    (x >>= f).Announced := by
  intro cache
  refine Course.Announced.bind (h cache) fun p => ?_
  obtain ⟨v, cache⟩ := p
  cases v with
  | some v => exact hf v cache
  | none => exact .done _

/-- Any event but that of a prepared request may be reported by itself. -/
theorem report {e : Event} (he : e.preparesRequest = false) : (Step.report e).Announced :=
  fun _ => .report he (.done _)

theorem fail {e : Event} (he : e.preparesRequest = false) :
    (Step.fail e : Step α).Announced :=
  fun _ => .report he (.done _)

/-- An event that is added to a failure announces nothing. -/
theorem orFail {x : Step α} (h : x.Announced) {e : Event} (he : e.preparesRequest = false) :
    (x.orFail e).Announced := by
  intro cache
  refine Course.Announced.bind (h cache) fun p => ?_
  obtain ⟨v, cache⟩ := p
  cases v with
  | some v => exact .done _
  | none => exact fail he cache

/-- A course inside a step is announced as it is by itself. -/
theorem ofCourse {c : Course α} (h : c.Announced) : (Step.ofCourse c).Announced :=
  fun _ => (h.bind fun _ => .done _).bind fun _ => .done _

theorem ofWarned (w : Warned α) : (Step.ofCourse (.ofWarned w)).Announced :=
  ofCourse ((Course.Announced.warnAll w.warnings).bind fun _ => .done w.value)

/-- Looking up a kept credential sends nothing. -/
theorem kept? (key : CredentialKey) : (Step.kept? key).Announced := fun _ => .done _

theorem keep (key : CredentialKey) (value : String) : (Step.keep key value).Announced :=
  fun _ => .done _

/-- Fail on a condition, and go on otherwise. -/
theorem failIf (b : Bool) {e : Event} (he : e.preparesRequest = false) {f : Unit → Step α}
    (hf : (f ()).Announced) :
    Step.Announced (if b = true then Step.fail e >>= f else f ()) := by
  cases b with
  | true => exact fun _ => .report he (.done _)
  | false => exact hf

/-- A request and its report. -/
theorem sending (request : HttpRequest) (operation : Option String)
    {f : TransportAnswer → Step α} (hf : ∀ a, (f a).Announced) :
    (do Step.report (.requestPrepared request operation); f (← Step.send request)).Announced :=
  fun cache => .send fun a => hf a cache

end Step.Announced

/-! ## §4. All runs. -/

section Runs

variable (c : Setup) {nested : Runner}

/-- A runner all of whose playbooks report their requests. -/
def Runner.Announced (nested : Runner) : Prop :=
  ∀ name stages stack, (nested name stages stack).Announced

/-- The stages of a credential are a playbook one level down. -/
theorem acquisitionScopes_announced (hn : nested.Announced) (auth : String)
    (method : CredentialMethod) (stack : ScopeStack) :
    (Setup.acquisitionScopes nested auth method stack).Announced := by
  unfold Setup.acquisitionScopes
  cases method.stages with
  | none => exact .pure stack
  | some stages => exact .bind (.orFail (hn auth stages stack) rfl) fun _ => .pure _

/-- The value of a template is reported, and sends nothing. -/
theorem acquire_announced (hn : nested.Announced) (auth : String) (key : CredentialKey)
    (method : CredentialMethod) (stack : ScopeStack) :
    (Setup.acquire nested auth key method stack).Announced := by
  unfold Setup.acquire
  refine .bind (acquisitionScopes_announced hn auth method stack) fun scopes => ?_
  refine .bind (.report rfl) fun _ => ?_
  exact .failIf _ rfl (.bind (.keep key _) fun _ => .pure _)

theorem resolve_announced (hn : nested.Announced) (stack : ScopeStack) (auth : String) :
    (c.resolve nested stack auth).Announced := by
  unfold Setup.resolve
  refine .bind (.report rfl) fun _ => ?_
  cases c.method auth with
  | error e => exact .fail rfl
  | ok found =>
    obtain ⟨key, credential, method⟩ := found
    have hvalue : (Setup.credentialValue nested auth key method stack).Announced := by
      unfold Setup.credentialValue
      refine .bind (.kept? key) fun kept => ?_
      cases kept with
      | some value => exact .bind (.report rfl) fun _ => .pure value
      | none => exact acquire_announced hn auth key method stack
    refine .bind hvalue fun value => .bind (.ofWarned _) fun declared => ?_
    exact .bind (.report rfl) fun _ => .pure _

/-- The credentials of a request, one after another. -/
theorem resolveAll_announced (hn : nested.Announced) (stack : ScopeStack) (auths : List String)
    (result : AuthResult) : (c.resolveAll nested stack auths result).Announced := by
  induction auths generalizing result with
  | nil => exact .pure result
  | cons auth rest ih =>
    exact .bind (resolve_announced c hn stack auth) fun credential => ih _

/-- The only step that sends: it reports the prepared request first. -/
theorem exchange_announced (request : HttpRequest) (operation : Option String) :
    (exchange request operation).Announced := by
  refine .sending request operation fun a => ?_
  cases a with
  | error e => exact .fail rfl
  | ok reply => exact .bind (.report rfl) fun _ => .pure reply

/-- Rules read the reply and send nothing more. -/
theorem assignVariables_announced (id : String) (rules : Responses) (request : HttpRequest)
    (reply : Reply) : (assignVariables id rules request reply).Announced := by
  unfold assignVariables
  cases rules.extract id request reply with
  | error e => exact .fail rfl
  | ok scope => exact .bind (.report rfl) fun _ => .pure scope

/-- What a stage does with its request, from the payload to the second rules. -/
theorem deliver_announced (playbook : String) (index : Nat) (s : Stage) (outer : ScopeStack)
    (request : Request) (credentials : AuthResult) :
    (c.deliver playbook index s outer request credentials).Announced := by
  unfold Setup.deliver
  refine .bind (.report rfl) fun _ => .failIf _ rfl (.bind (.ofWarned _) fun built => ?_)
  cases built with
  | error e => exact .fail rfl
  | ok http =>
    refine .bind (exchange_announced http request.operationId) fun reply => ?_
    cases s.unexpected? request reply with
    | some e => exact .fail rfl
    | none =>
      refine .bind (assignVariables_announced _ _ http reply) fun first => ?_
      exact .bind (assignVariables_announced _ _ http reply) fun second => .pure _

/-- One stage: its credentials, then its request. -/
theorem stage_announced (hn : nested.Announced) (playbook : String) (index : Nat) (s : Stage)
    (outer : ScopeStack) : (c.stage nested playbook index s outer).Announced := by
  cases hr : c.stageRequest index s with
  | error e =>
    unfold Setup.stage
    rw [hr]
    exact .fail rfl
  | ok found =>
    obtain ⟨ref, request⟩ := found
    rw [stage_eq_deliver c nested playbook index s outer hr]
    have hcredentials : (c.credentials nested request outer).Announced := by
      unfold Setup.credentials
      split
      · exact .pure NameMap.empty
      · exact .orFail (resolveAll_announced c hn outer request.auth .empty) rfl
    refine .bind (.report rfl) fun _ => .bind hcredentials fun credentials => ?_
    exact deliver_announced c playbook index s outer request credentials

/-- The stages of a playbook, one after another. -/
theorem stages_announced (hn : nested.Announced) (playbook : String) (stack : ScopeStack)
    (index : Nat) (assigned : ScopeStack) (stages : List Stage) :
    (c.stages nested playbook stack index assigned stages).Announced := by
  -- each stage goes on with the scopes that the earlier ones have set
  induction stages generalizing index assigned with
  | nil => exact .pure assigned
  | cons s rest ih =>
    exact .bind (stage_announced c hn playbook index s _) fun scopes => ih (index + 1) _

/-- By induction on the levels that are left, every playbook is announced. -/
theorem playbookWithin_announced (levels depth : Nat) :
    (c.playbookWithin levels depth).Announced := by
  induction levels generalizing depth with
  | zero =>
    intro name stages stack
    refine .bind (.report rfl) fun _ => ?_
    exact .bind (.ofCourse (Course.Announced.warnAll _)) fun _ => .fail rfl
  | succ levels ih =>
    intro name stages stack
    refine .bind (.report rfl) fun _ => ?_
    refine .bind (stages_announced c (ih (depth + 1)) name stack 0 [] stages) fun assigned => ?_
    exact .bind (.report rfl) fun _ => .pure assigned

/-- The playbooks of a run, one after another. -/
theorem playbooks_announced (stack : ScopeStack) (cache : CredentialCache)
    (assigned : ScopeStack) (ps : List Playbook) :
    (c.playbooks stack cache assigned ps).Announced := by
  induction ps generalizing cache assigned with
  | nil => exact .done assigned
  | cons p rest ih =>
    unfold Setup.playbooks
    split
    · exact ih cache assigned
    · have hplaybook := playbookWithin_announced c maxDepth 0 p.name p.stages (stack ++ assigned)
      refine (hplaybook cache).bind fun ran => ?_
      obtain ⟨result, cache⟩ := ran
      cases result with
      | some scopes => exact ih cache (assigned ++ scopes)
      | none => exact .unless_warn _ _ (.done assigned)

/-- **EVERY REQUEST IS REPORTED BEFORE IT IS SENT**, and nothing else is done between. -/
theorem announced_runAll (values : RuntimeValues) (extra : ScopeStack) (ps : List Playbook) :
    (c.runAll values extra ps).Announced := by
  unfold Setup.runAll
  exact .unless_warn _ _ (playbooks_announced c _ .empty [] ps)

end Runs

/-! ## §5. Two runs of one course. -/

/-- A course of which nothing depends on an answer that has not come, and which can be
cancelled at any event. -/
structure Course.Causal (course : Course α) : Prop where
  /-- With any two transports that give it the same first answers it runs the same. -/
  sameUntil : ∀ t t' k, SameAnswers k (course.answers t []) (course.answers t' []) →
    (course.run t []).SameUntil k (course.run t' [])
  /-- Cancelled behind `n` events it has reported the first `n` events. -/
  cancelled : ∀ t n, course.runUntil t n [] = (course.run t []).trace.take n

/-- What is announced is causal, by comparing it under two transports. -/
theorem Course.Announced.causal {course : Course α} (h : course.Announced) :
    course.Causal := by
  refine ⟨fun t t' k hk => ?_, fun t n => Course.runUntil_eq_take t n [] course⟩
  obtain ⟨htrace, hsent, hwhole⟩ := h.sameUntil t t' k [] hk
  rw [List.length_nil, Nat.zero_add] at hsent
  exact ⟨htrace, hsent, hwhole⟩

/-- **RUNS ARE CAUSAL**: whatever the bundle, the API, the values, the scopes around the
run and the playbooks. -/
theorem causal_runAll (c : Setup) (values : RuntimeValues) (extra : ScopeStack)
    (ps : List Playbook) : (c.runAll values extra ps).Causal :=
  (announced_runAll c values extra ps).causal

/-- Two servers that give the same first replies cannot be told apart before the request
behind them. -/
theorem sameUntil_ofAnswers (c : Setup) (values : RuntimeValues) (extra : ScopeStack)
    (ps : List Playbook) (first rest rest' : List TransportAnswer) :
    ((c.runAll values extra ps).run (.ofAnswers (first ++ rest)) []).SameUntil first.length
      ((c.runAll values extra ps).run (.ofAnswers (first ++ rest')) []) := by
  have hagree (before : List HttpRequest) (request : HttpRequest)
      (h : before.length < first.length) :
      Transport.ofAnswers (first ++ rest) before request
        = Transport.ofAnswers (first ++ rest') before request := by
    unfold Transport.ofAnswers
    rw [List.getElem?_append_left h, List.getElem?_append_left h, List.getElem?_eq_getElem h]
    rfl
  have hcausal := (announced_runAll c values extra ps).causal
  refine hcausal.sameUntil _ _ _ (Course.sameAnswers first.length [] _ fun before r hr => ?_)
  rw [List.length_nil, Nat.zero_add] at hr
  exact hagree before r hr

end ApiPlaybook
