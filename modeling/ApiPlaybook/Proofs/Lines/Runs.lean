/-
  ApiPlaybook.Proofs.Lines.Runs
  ─────────────────────────────
  **THE LINES OF A RUN.**

  Each rule of a run tells only events whose line breaks are those of texts that
  were given (`Event.BreaksFrom`), and the induction over the levels carries it
  into the playbooks that acquire credentials.  So a run whose events are told in
  full is printed with one line for each event if no text that was given to it
  has a line break (`linesAccounted_of_runs`).

  Nothing refuses such a text, and nothing escapes it: under a name with a line
  break a request tells what looks like the end of its playbook
  (`not_oneLineEach`).
-/
import ApiPlaybook.Proofs.Lines.Sources
import ApiPlaybook.Proofs.Run.Rules

namespace ApiPlaybook

/-! ## §1. Events. -/

/-- The line breaks of the event come from given texts. -/
structure Event.BreaksFrom (given : String → Prop) (e : Event) : Prop where
  regular : e.IsRegular
  shown : ∀ text ∈ e.shown, ApiPlaybook.BreaksFrom given text

/-- So do those of all events of a trace. -/
def TraceBreaksFrom (given : String → Prop) (trace : List Event) : Prop :=
  ∀ e ∈ trace, e.BreaksFrom given

section Events

variable {given : String → Prop} {e : Event} {x y : List Event}

theorem TraceBreaksFrom.nil : TraceBreaksFrom given [] := List.forall_mem_nil _

theorem TraceBreaksFrom.cons (h : e.BreaksFrom given) (hx : TraceBreaksFrom given x) :
    TraceBreaksFrom given (e :: x) :=
  List.forall_mem_cons.mpr ⟨h, hx⟩

theorem TraceBreaksFrom.append (hx : TraceBreaksFrom given x) (hy : TraceBreaksFrom given y) :
    TraceBreaksFrom given (x ++ y) :=
  List.forall_mem_append.mpr ⟨hx, hy⟩

/-- The three parts of a trace lie in every trace that it lies in. -/
theorem parts_subset {before inner after whole : List Event}
    (h : before ++ inner ++ after ⊆ whole) : before ⊆ whole ∧ inner ⊆ whole ∧ after ⊆ whole := by
  obtain ⟨hfront, hafter⟩ := List.append_subset.mp h
  obtain ⟨hbefore, hinner⟩ := List.append_subset.mp hfront
  exact ⟨hbefore, hinner, hafter⟩

/-- All that the event shows was given. -/
theorem Event.BreaksFrom.of_given (hr : e.IsRegular) (h : ∀ text ∈ e.shown, given text) :
    e.BreaksFrom given :=
  ⟨hr, fun text htext => .of_given (h text htext)⟩

/-- The event shows nothing. -/
theorem Event.BreaksFrom.of_silent (hr : e.IsRegular) (h : e.shown = []) : e.BreaksFrom given :=
  ⟨hr, h ▸ List.forall_mem_nil _⟩

/-- The event shows one text. -/
theorem Event.BreaksFrom.of_single {text : String} (hr : e.IsRegular) (hs : e.shown = [text])
    (h : given text) : e.BreaksFrom given :=
  .of_given hr (hs ▸ List.forall_mem_singleton.mpr h)

end Events

/-! ## §2. Rules. -/

/-- The playbooks that a runner runs break only where texts do that are given with them, or to
what takes part. -/
def Runner.BreaksFrom (nested : Runner) (c : Setup) (t : Transport) (own : List String)
    (whole : List Event) : Prop :=
  nested.Ensures t fun name stages _ o => o.trace ⊆ whole → c.Supplies t own whole name →
    (∀ text ∈ stages.flatMap Stage.texts, c.Supplies t own whole text) →
      TraceBreaksFrom (c.Supplies t own whole) o.trace

section Rules

variable {c : Setup} {t : Transport} {own : List String} {whole : List Event} {nested : Runner}

/-- The parts of a reference are cut out of it. -/
theorem mem_of_mem_ofText {auth : String} {ch : Char}
    (h : ch ∈ (AuthRef.ofText auth).credential.toList ∨
      ∃ method, (AuthRef.ofText auth).method = some method ∧ ch ∈ method.toList) :
    ch ∈ auth.toList := by
  unfold AuthRef.ofText splitOnce at h
  by_cases hslash : '/' ∈ auth.toList
  · obtain ⟨front, rest, htext, hfront⟩ := List.eq_append_cons_of_mem hslash
    rw [htext, splitFirst_append _ hfront] at h
    rw [htext]
    rcases h with h | ⟨method, hmethod, h⟩
    · simp only [Option.map_some, String.toList_ofList] at h
      simp [h]
    · simp only [Option.map_some, Option.some.injEq] at hmethod
      rw [← hmethod, String.toList_ofList] at h
      simp [h]
  · rw [splitFirst_eq_none hslash] at h
    rcases h with h | ⟨method, hmethod, -⟩
    · exact h
    · cases hmethod

/-- A reference that leads nowhere is shown, or the default method of its credential is. -/
theorem Setup.method_breaksFrom {auth : String} {e : RunError} (h : c.method auth = .error e)
    (hstart : .authStarted auth ∈ whole) (hauth : c.Supplies t own whole auth) :
    (Event.authAborted e).BreaksFrom (c.Supplies t own whole) := by
  -- name and method are parts of the reference
  have hname : BreaksFrom (c.Supplies t own whole) (AuthRef.ofText auth).credential :=
    .of_newline fun hbreak => ⟨auth, hauth, mem_of_mem_ofText (.inl hbreak)⟩
  unfold Setup.method at h
  dsimp only at h
  cases hc : c.bundle.credential? (AuthRef.ofText auth).credential with
  | none =>
    simp only [hc] at h
    cases h
    exact ⟨trivial, List.forall_mem_singleton.mpr hname⟩
  | some credential =>
    simp only [hc] at h
    split at h
    · cases h
      refine ⟨trivial, List.forall_mem_cons.mpr ⟨?_, List.forall_mem_singleton.mpr hname⟩⟩
      cases hmethod : (AuthRef.ofText auth).method with
      | none => exact .of_given (.defaultMethod hstart hc)
      | some method =>
        exact .of_newline fun hbreak =>
          ⟨auth, hauth, mem_of_mem_ofText (.inr ⟨method, hmethod, hbreak⟩)⟩
    · cases h

variable {stack outer assigned : ScopeStack} {auth : String} {m : Moment}

/-- The stages of a credential are given by the bundle. -/
theorem AcquisitionRun.breaksFrom (hn : nested.BreaksFrom c t own whole)
    {key : CredentialKey} {credential : Credential} {method : CredentialMethod}
    {scopes : ScopeStack} {m' : Moment} {trace : List Event}
    (h : AcquisitionRun t nested auth method stack m scopes trace m') (hw : trace ⊆ whole)
    (hm : c.method auth = .ok (key, credential, method)) (hstart : .authStarted auth ∈ whole)
    (hauth : c.Supplies t own whole auth) :
    TraceBreaksFrom (c.Supplies t own whole) trace := by
  cases h with
  | direct hs => exact .nil
  | staged hs ho => exact hn.of_outcome ho hw hauth fun _ => .acquisition hstart hm hs

/-- A credential shows its reference and what its playbook shows. -/
theorem CredentialRun.breaksFrom (hn : nested.BreaksFrom c t own whole)
    {o : Outcome ResolvedCredential} (h : CredentialRun c t nested stack auth m o)
    (hw : o.trace ⊆ whole) (hauth : c.Supplies t own whole auth) :
    TraceBreaksFrom (c.Supplies t own whole) o.trace := by
  have hstarted : (Event.authStarted auth).BreaksFrom (c.Supplies t own whole) :=
    .of_single trivial rfl hauth
  have hfinished : Event.authFinished.BreaksFrom (c.Supplies t own whole) := .of_silent trivial rfl
  have hnone : lineBreaks (missingNamesText []) = 0 := by decide
  -- the own events of a credential show its reference only
  cases h with
  | unknown hm =>
    exact .cons hstarted (.cons (Setup.method_breaksFrom hm (hw (by simp)) hauth) .nil)
  | kept hm hk => exact .cons hstarted (.cons (.of_single trivial rfl hauth) (.cons hfinished .nil))
  | notAcquired hm hk hs ho =>
    obtain ⟨hstart, hw, -⟩ := parts_subset hw
    refine .append (.append (.cons hstarted .nil) ?_) (.cons (.of_single trivial rfl hauth) .nil)
    exact hn.of_outcome ho hw hauth fun _ => .acquisition (hstart (.head _)) hm hs
  | incomplete hm hk ha hf hne =>
    obtain ⟨hstart, hw, -⟩ := parts_subset hw
    refine .append (.append (.cons hstarted .nil)
      (ha.breaksFrom hn hw hm (hstart (.head _)) hauth)) ?_
    have hnames := hf ▸ lineBreaks_missing_credential _ _
    exact .cons (.of_single hnames rfl hauth) (.cons (.of_single hnames rfl hauth) .nil)
  | obtained hm hk ha hf hcomplete =>
    obtain ⟨hstart, hw, -⟩ := parts_subset hw
    refine .append (.append (.cons hstarted .nil)
      (ha.breaksFrom hn hw hm (hstart (.head _)) hauth)) ?_
    exact .cons (.of_single hnone rfl hauth) (.cons hfinished .nil)

theorem CredentialsRun.breaksFrom (hn : nested.BreaksFrom c t own whole) {auths : List String}
    {result : AuthResult} {o : Outcome AuthResult}
    (h : CredentialsRun c t nested stack auths result m o) (hw : o.trace ⊆ whole)
    (hauths : ∀ auth ∈ auths, c.Supplies t own whole auth) :
    TraceBreaksFrom (c.Supplies t own whole) o.trace := by
  induction h with
  | done => exact .nil
  | failed h => exact h.breaksFrom hn hw (hauths _ (.head _))
  | next h hr ih =>
    obtain ⟨hfirst, hrest⟩ := List.append_subset.mp hw
    obtain ⟨hauth, hauths⟩ := List.forall_mem_cons.mp hauths
    exact .append (h.breaksFrom hn hfirst hauth) (ih hrest hauths)

variable {playbook : String} {index : Nat} {s : Stage} {ref : RequestRef} {request : Request}

/-- The status that was expected is given by the stage or by its request. -/
theorem Stage.unexpected_breaksFrom {given : String → Prop} {reply : Reply} {e : RunError}
    (h : s.unexpected? request reply = some e) (hs : ∀ text ∈ s.texts, given text)
    (hrequest : ∀ text ∈ request.texts, given text) :
    (Event.processingFailed e).BreaksFrom given := by
  unfold Stage.unexpected? at h
  split at h
  · cases h
  · dsimp only at h
    split at h
    · cases h
    · cases h
      refine .of_single trivial rfl ?_
      cases hexpected : s.expected with
      | some expected => exact hs _ (by simp [Stage.texts, hexpected])
      | none => exact hrequest _ (by simp [Request.texts])

section Extraction

variable {given : String → Prop} {rs : Responses} {id : String} {http : HttpRequest}
  {reply : Reply}

/-- The variables that are assigned are named in the rules. -/
theorem Responses.assigned_breaksFrom {scope : Scope} (h : rs.extract id http reply = .ok scope)
    (hurl : lineBreaks http.url = 0) (hrs : ∀ text ∈ rs.texts, given text) :
    (Event.variablesAssigned scope).BreaksFrom given := by
  rcases rs.extract_cases id reply hurl with ⟨_, hok, hshown⟩ | ⟨_, herror, -, -⟩
  · cases hok.symm.trans h
    exact .of_given trivial fun text htext => hrs text (hshown text htext)
  · cases herror.symm.trans h

theorem Responses.failed_breaksFrom {e : ExtractionError} (h : rs.extract id http reply = .error e)
    (hurl : lineBreaks http.url = 0) (hrs : ∀ text ∈ rs.texts, given text) :
    (Event.processingFailed (.extraction e)).BreaksFrom given := by
  rcases rs.extract_cases id reply hurl with ⟨_, hok, -⟩ | ⟨_, herror, hr, hshown⟩
  · cases hok.symm.trans h
  · cases herror.symm.trans h
    exact .of_given hr fun text htext => hrs text (hshown text htext)

end Extraction

/-- **ONE REQUEST** shows what its operation, its rules, its values and the transport give. -/
theorem RequestRun.breaksFrom {credentials : AuthResult} {o : Outcome ScopeStack}
    (h : RequestRun c t playbook index s outer request credentials m o) (hw : o.trace ⊆ whole)
    (hstart : .requestStarted ref ∈ whole) (hr : c.bundle.request? ref = some request)
    (hs : ∀ text ∈ s.texts, c.Supplies t own whole text) :
    TraceBreaksFrom (c.Supplies t own whole) o.trace := by
  have hrequest : ∀ text ∈ request.texts, c.Supplies t own whole text :=
    fun _ => .request hstart hr
  have hrules : ∀ text ∈ request.responses.texts, c.Supplies t own whole text :=
    fun text htext => hrequest text (by simp [Request.texts, htext])
  have hstageRules : ∀ text ∈ s.responses.texts, c.Supplies t own whole text :=
    fun text htext => hs text (by simp [Stage.texts, htext])
  -- what the run makes itself is on one line
  have hnames := lineBreaks_missing_payload s request outer
  have hreport : (s.payload request outer).report.BreaksFrom (c.Supplies t own whole) :=
    .of_silent hnames rfl
  have hprepared {http : HttpRequest}
      (hb : (c.prepare request (s.payload request outer).template credentials).value = .ok http) :
      (Event.requestPrepared http request.operationId).BreaksFrom (c.Supplies t own whole) :=
    .of_silent (Setup.prepare_made hb) rfl
  have hreceived (reply : Reply) :
      (Event.responseReceived reply).BreaksFrom (c.Supplies t own whole) := .of_silent trivial rfl
  -- what is left are texts of the rules, of the stage and of the transport
  cases h with
  | variablesMissing hp hn =>
    cases hp
    exact .cons hreport (.cons (.of_silent hnames rfl) .nil)
  | notBuilt hp hn hb =>
    cases hp
    exact .cons hreport
      (.cons ⟨trivial, Setup.prepare_breaksFrom hstart hr (hw (.head _)) hb⟩ .nil)
  | notSent hp hn hb ha =>
    cases hp
    refine .cons hreport (.cons (hprepared hb) (.cons (.of_given trivial fun _ => ?_) .nil))
    exact .transport (hw (.tail _ (.head _))) ha
  | unexpected hp hn hb ha hu =>
    cases hp
    exact .cons hreport (.cons (hprepared hb) (.cons (hreceived _)
      (.cons (Stage.unexpected_breaksFrom hu hs hrequest) .nil)))
  | requestRulesFailed hp hn hb ha hu h₁ =>
    cases hp
    exact .cons hreport (.cons (hprepared hb) (.cons (hreceived _)
      (.cons (Responses.failed_breaksFrom h₁ (Setup.prepare_made hb).2 hrules) .nil)))
  | stageRulesFailed hp hn hb ha hu h₁ h₂ =>
    cases hp
    have hurl := (Setup.prepare_made hb).2
    exact .cons hreport (.cons (hprepared hb) (.cons (hreceived _)
      (.cons (Responses.assigned_breaksFrom h₁ hurl hrules)
        (.cons (Responses.failed_breaksFrom h₂ hurl hstageRules) .nil))))
  | done hp hn hb ha hu h₁ h₂ =>
    cases hp
    have hurl := (Setup.prepare_made hb).2
    exact .cons hreport (.cons (hprepared hb) (.cons (hreceived _)
      (.cons (Responses.assigned_breaksFrom h₁ hurl hrules)
        (.cons (Responses.assigned_breaksFrom h₂ hurl hstageRules) .nil))))

/-- The references to credentials are texts of the request. -/
theorem Request.auth_subset (r : Request) : r.auth ⊆ r.texts := by
  intro auth hauth
  simp [texts, hauth]

/-- A free request asks for no credentials, any other for those that it names. -/
theorem Request.references_subset (r : Request) : r.references ⊆ r.texts := by
  unfold references
  split
  · exact List.nil_subset _
  · exact r.auth_subset

/-- A stage shows its reference, and what its credentials and its request show. -/
theorem StageRun.breaksFrom (hn : nested.BreaksFrom c t own whole) {o : Outcome ScopeStack}
    (h : StageRun c t nested playbook index s outer m o) (hw : o.trace ⊆ whole)
    (hs : ∀ text ∈ s.texts, c.Supplies t own whole text) :
    TraceBreaksFrom (c.Supplies t own whole) o.trace := by
  have hstarted {ref : RequestRef} {request : Request}
      (hr : c.stageRequest index s = .ok (ref, request)) :
      (Event.requestStarted ref).BreaksFrom (c.Supplies t own whole) :=
    .of_single trivial rfl (hs _ (by simp [Stage.texts, (stageRequest_eq_ok c hr).1]))
  -- once the request is started, its texts count as given
  have hrequest {ref : RequestRef} {request : Request}
      (hr : c.stageRequest index s = .ok (ref, request)) (hstart : [.requestStarted ref] ⊆ whole) :
      ∀ text ∈ request.texts, c.Supplies t own whole text :=
    fun _ => .request (hstart (.head _)) (stageRequest_eq_ok c hr).2
  cases h with
  | noRequest hr =>
    rcases stageRequest_eq_error c hr with ⟨-, rfl⟩ | ⟨ref, href, -, rfl⟩
    · exact .cons (.of_silent trivial rfl) .nil
    · exact .cons (.of_single trivial rfl (hs _ (by simp [Stage.texts, href]))) .nil
  | noCredentials hr hc =>
    obtain ⟨hstart, hw, -⟩ := parts_subset hw
    refine .append (.append (.cons (hstarted hr) .nil) ?_) (.cons (.of_given trivial ?_) .nil)
    · exact hc.breaksFrom hn hw fun auth hauth =>
        hrequest hr hstart auth (Request.references_subset _ hauth)
    · exact fun auth hauth => hrequest hr hstart auth (Request.auth_subset _ hauth)
  | ran hr hc ho =>
    obtain ⟨hstart, hw, hlast⟩ := parts_subset hw
    refine .append (.append (.cons (hstarted hr) .nil) ?_) ?_
    · exact hc.breaksFrom hn hw fun auth hauth =>
        hrequest hr hstart auth (Request.references_subset _ hauth)
    · exact ho.breaksFrom hlast (hstart (.head _)) (stageRequest_eq_ok c hr).2 hs

theorem StagesRun.breaksFrom (hn : nested.BreaksFrom c t own whole) {stages : List Stage}
    {o : Outcome ScopeStack}
    (h : StagesRun c t nested playbook stack index assigned stages m o) (hw : o.trace ⊆ whole)
    (hs : ∀ text ∈ stages.flatMap Stage.texts, c.Supplies t own whole text) :
    TraceBreaksFrom (c.Supplies t own whole) o.trace := by
  induction h with
  | done => exact .nil
  | failed h =>
    rw [List.flatMap_cons, List.forall_mem_append] at hs
    exact h.breaksFrom hn hw hs.1
  | next h hr ih =>
    rw [List.flatMap_cons, List.forall_mem_append] at hs
    obtain ⟨hfirst, hrest⟩ := List.append_subset.mp hw
    exact .append (h.breaksFrom hn hfirst hs.1) (ih hrest hs.2)

theorem PlaybookRun.breaksFrom (hn : nested.BreaksFrom c t own whole) {name : String}
    {stages : List Stage} {o : Outcome ScopeStack}
    (h : PlaybookRun c t nested name stages stack m o) (hw : o.trace ⊆ whole)
    (hname : c.Supplies t own whole name)
    (hs : ∀ text ∈ stages.flatMap Stage.texts, c.Supplies t own whole text) :
    TraceBreaksFrom (c.Supplies t own whole) o.trace := by
  have hstarted : TraceBreaksFrom (c.Supplies t own whole) [.playbookStarted name] :=
    .cons (.of_single trivial rfl hname) .nil
  cases h with
  | failed h => exact .append hstarted (h.breaksFrom hn (List.append_subset.mp hw).2 hs)
  | finished h =>
    obtain ⟨-, hw, -⟩ := parts_subset hw
    exact .append (.append hstarted (h.breaksFrom hn hw hs))
      (.cons (.of_silent trivial rfl) .nil)

end Rules

/-! ## §3. Runs. -/

section Runs

variable (c : Setup) (t : Transport) (own : List String) (whole : List Event)

/-- By induction on the levels that are left, with the texts of each playbook given by whoever calls
it. -/
theorem playbookWithin_breaksFrom (levels depth : Nat) :
    (c.playbookWithin levels depth).BreaksFrom c t own whole := by
  refine playbookWithin_induction c t (P := fun _ name stages _ o => o.trace ⊆ whole →
    c.Supplies t own whole name →
    (∀ text ∈ stages.flatMap Stage.texts, c.Supplies t own whole text) →
      TraceBreaksFrom (c.Supplies t own whole) o.trace) ?_ ?_ levels depth
  · intro name stages m hw hname hs
    exact .cons (.of_single trivial rfl hname) (.cons (.of_silent trivial rfl) .nil)
  · intro levels depth ih name stages stack m o h
    exact h.breaksFrom ih

variable {c t own whole}

/-- The playbooks of a run are given with all their texts. -/
theorem PlaybooksRun.breaksFrom {stack assigned v : ScopeStack} {ps : List Playbook}
    {m m' : Moment} {trace : List Event} (h : PlaybooksRun c t stack assigned ps m v trace m')
    (hw : trace ⊆ whole) (hps : ∀ p ∈ ps, ∀ text ∈ p.texts, c.Supplies t own whole text) :
    TraceBreaksFrom (c.Supplies t own whole) trace := by
  have playbook := playbookWithin_breaksFrom c t own whole maxDepth 0
  induction h with
  | done => exact .nil
  | passedOver hp hr ih => exact ih hw (List.forall_mem_cons.mp hps).2
  | halted hp hn =>
    obtain ⟨hname, hs⟩ := List.forall_mem_cons.mp (hps _ (.head _))
    exact playbook.of_outcome hn hw hname hs
  | next hp hn hr ih =>
    obtain ⟨hfirst, hrest⟩ := List.append_subset.mp hw
    obtain ⟨hname, hs⟩ := List.forall_mem_cons.mp (hps _ (.head _))
    exact .append (playbook.of_outcome hn hfirst hname hs)
      (ih hrest (List.forall_mem_cons.mp hps).2)

end Runs

theorem breaksFrom_runAll (c : Setup) (t : Transport) (values : RuntimeValues)
    (extra : ScopeStack) (ps : List Playbook) :
    TraceBreaksFrom (c.Supplies t (ps.flatMap Playbook.texts)
        ((c.runAll values extra ps).run t []).trace)
      ((c.runAll values extra ps).run t []).trace := by
  obtain ⟨m, h, -⟩ := playbooksRun_runAll c t values extra ps
  refine h.breaksFrom (List.Subset.refl _) fun p hp text htext => ?_
  exact .own (List.mem_flatMap.mpr ⟨p, hp, htext⟩)

theorem breaksFrom_preview (c : Setup) (t : Transport) (cache : CredentialCache)
    (auths : List String) (stack : ScopeStack) (depth : Nat) (sent : List HttpRequest) :
    TraceBreaksFrom (c.Supplies t auths ((c.preview cache auths stack depth).run t sent).trace)
      ((c.preview cache auths stack depth).run t sent).trace := by
  have h := credentialsRun_resolveAll c t (c.playbookAt (depth + 1)) stack auths .empty
    ⟨cache, sent⟩
  rcases ho : (c.resolveAll (c.playbookAt (depth + 1)) stack auths .empty).outcome t ⟨cache, sent⟩
    with ⟨v, trace, m'⟩
  rw [ho] at h
  obtain ⟨warnings, hrun⟩ := Step.run_of_outcome ho
  have htrace : ((c.preview cache auths stack depth).run t sent).trace = trace :=
    congrArg (·.trace) hrun
  rw [htrace]
  exact h.breaksFrom (playbookWithin_breaksFrom c t auths trace _ _) (List.Subset.refl _)
    fun _ => .own

/-! ## §4. One line for each event. -/

/-- Whether the line tells all of the event.  What is wrong with a path or a pattern it does not
tell: `<detail>` stands for the words of the reader of that language.  These may span several lines
by themselves (an error of a pattern does), so such an event is a second source of line breaks, next
to the texts that are given. -/
def Event.isToldInFull : Event → Bool
  | .processingFailed (.extraction ⟨_, .badJsonPath _⟩) => false
  | .processingFailed (.extraction ⟨_, .badPattern _⟩) => false
  | _ => true

/-- Where the line breaks of a printed trace come from. -/
structure LinesAccounted (given : String → Prop) (trace : List Event) : Prop where
  /-- A line has the line breaks of the texts that it shows as they are given. -/
  counted : ∀ e ∈ trace, e.isToldInFull = true → ∀ depth,
    lineBreaks (e.indentedLine depth) = (e.shown.map lineBreaks).sum
  /-- Each of them comes with one in a text that was given to what took part. -/
  supplied : ∀ e ∈ trace, ∀ text ∈ e.shown, BreaksFrom given text
  /-- Printing takes a line for each event and one for each of these line breaks. -/
  total : (∀ e ∈ trace, e.isToldInFull = true) → lineBreaks (printed (traceLines trace))
    = trace.length + ((trace.flatMap Event.shown).map lineBreaks).sum
  /-- Without a line break in these texts every event is on one line. -/
  oneEach : (∀ text, given text → lineBreaks text = 0) →
    (∀ e ∈ trace, e.isToldInFull = true → ∀ depth, lineBreaks (e.indentedLine depth) = 0) ∧
      ((∀ e ∈ trace, e.isToldInFull = true) →
        lineBreaks (printed (traceLines trace)) = trace.length)

/-- What is shown is counted event by event. -/
theorem TraceBreaksFrom.linesAccounted {given : String → Prop} {trace : List Event}
    (h : TraceBreaksFrom given trace) : LinesAccounted given trace := by
  have hregular : ∀ e ∈ trace, e.IsRegular := fun e he => (h e he).regular
  have hunbroken (hgiven : ∀ text, given text → lineBreaks text = 0) :
      ∀ e ∈ trace, ∀ text ∈ e.shown, lineBreaks text = 0 := by
    intro e he text htext
    by_contra hbreak
    obtain ⟨source, hsource, hne⟩ := (h e he).shown text htext hbreak
    exact hne (hgiven source hsource)
  refine ⟨fun e he _ => Event.lineBreaks_indentedLine (hregular e he),
    fun e he => (h e he).shown, fun _ => lineBreaks_printed_traceLines hregular,
    fun hgiven => ⟨fun e he _ depth => ?_, fun _ => ?_⟩⟩
  · rw [Event.lineBreaks_indentedLine (hregular e he), List.sum_eq_zero_iff, List.forall_mem_map]
    exact hunbroken hgiven e he
  · have hnone : ((trace.flatMap Event.shown).map lineBreaks).sum = 0 := by
      rw [List.sum_eq_zero_iff, List.forall_mem_map, List.forall_mem_flatMap]
      exact hunbroken hgiven
    rw [lineBreaks_printed_traceLines hregular, hnone, Nat.add_zero]

/-- **THE LINE BREAKS OF A RUN** are those of texts that were given to what took part in it, in
every run of playbooks and whenever credentials are obtained alone, whatever the bundle, the API,
the values and the transport are.  A run to which none was given is printed with one line for
each event. -/
theorem linesAccounted_of_runs (c : Setup) (t : Transport) :
    (∀ values extra ps, LinesAccounted
      (c.Supplies t (ps.flatMap Playbook.texts) ((c.runAll values extra ps).run t []).trace)
      ((c.runAll values extra ps).run t []).trace) ∧
    ∀ cache auths stack depth sent, LinesAccounted
      (c.Supplies t auths ((c.preview cache auths stack depth).run t sent).trace)
      ((c.preview cache auths stack depth).run t sent).trace :=
  ⟨fun values extra ps => (breaksFrom_runAll c t values extra ps).linesAccounted,
    fun cache auths stack depth sent =>
      (breaksFrom_preview c t cache auths stack depth sent).linesAccounted⟩

/-- A free request without a URL, under a name. -/
def namedSetup (name : String) : Setup :=
  let request : Request := ⟨none, .empty, [], .ofStatus 200, .empty,
    ⟨none, none, ⟨.empty, .empty, .empty, .empty⟩, none⟩⟩
  ⟨⟨.empty, .ofList [(name, request)], [.ofRef ⟨.request, name⟩], [], [], .empty, none⟩,
    ⟨.ofMembers []⟩, ""⟩

/-- A playbook of what is done before all. -/
def namedPlaybook (name : String) : Playbook := ⟨"Global Before", (namedSetup name).bundle.before⟩

def namedTrace (name : String) : List Event :=
  (((namedSetup name).runAll ⟨.empty, .empty⟩ [] [namedPlaybook name]).run .mock []).trace

/-- No text that is given to this run has a line break. -/
theorem supplies_login (text : String)
    (h : (namedSetup "login").Supplies .mock ([namedPlaybook "login"].flatMap Playbook.texts)
      (namedTrace "login") text) : lineBreaks text = 0 := by
  obtain ⟨stack, found, missing, htrace⟩ : ∃ stack found missing, namedTrace "login" =
      [.playbookStarted "Global Before", .requestStarted ⟨.request, "login"⟩,
        .payloadSubstituted stack found missing, .prepareFailed (.build .missingUrl)] :=
    ⟨_, _, _, rfl⟩
  have hrequest {ref : RequestRef} {request : Request}
      (hstart : .requestStarted ref ∈ namedTrace "login")
      (hr : (namedSetup "login").bundle.request? ref = some request) :
      some request = (namedSetup "login").bundle.request? ⟨.request, "login"⟩ := by
    have href : ref = ⟨.request, "login"⟩ := by simpa [htrace] using hstart
    rw [← hr, href]
  cases h with
  | own h =>
    have hown : ∀ text ∈ [namedPlaybook "login"].flatMap Playbook.texts, lineBreaks text = 0 := by
      decide +kernel
    exact hown text h
  | request hstart hr h =>
    cases hrequest hstart hr
    have htexts : ∀ text ∈ ["200"], lineBreaks text = 0 := by decide
    exact htexts text h
  | operation hstart hr hid =>
    cases hrequest hstart hr
    cases hid
  | free hstart hr hid hvalues h =>
    cases hrequest hstart hr
    -- without values there is only the default method
    have hmethod : ∀ text ∈ [Unicode.upperText "GET"], lineBreaks text = 0 := by decide +kernel
    exact hmethod text h
  | defaultMethod hstart => simp [htrace] at hstart
  | acquisition hstart => simp [htrace] at hstart
  | transport hsent => simp [htrace] at hsent

/-- A run whose texts are without line breaks, printed with one line for each event. -/
theorem linesAccounted_of_runs_login :
    (∀ text, (namedSetup "login").Supplies .mock ([namedPlaybook "login"].flatMap Playbook.texts)
      (namedTrace "login") text → lineBreaks text = 0) ∧
    lineBreaks (printed (traceLines (namedTrace "login"))) = (namedTrace "login").length := by
  refine ⟨supplies_login, ?_⟩
  have haccount := (linesAccounted_of_runs (namedSetup "login") .mock).1 ⟨.empty, .empty⟩ []
    [namedPlaybook "login"]
  exact (haccount.oneEach supplies_login).2 (by decide +kernel)

/-- **NOT ONE LINE FOR EACH EVENT**: a line break in a name of a bundle makes two lines of one. -/
theorem not_oneLineEach :
    ¬ ∀ (c : Setup) (t : Transport) (values : RuntimeValues) (extra : ScopeStack)
      (ps : List Playbook),
      (∀ line ∈ traceLines ((c.runAll values extra ps).run t []).trace, lineBreaks line = 0) ∧
        lineBreaks (printed (traceLines ((c.runAll values extra ps).run t []).trace))
          = ((c.runAll values extra ps).run t []).trace.length := by
  intro h
  have hcount := (h (namedSetup "login\nplaybook-finished") .mock ⟨.empty, .empty⟩ []
    [namedPlaybook "login\nplaybook-finished"]).2
  revert hcount
  decide +kernel

-- The playbook failed, and a line tells that it was finished.
example : printed (traceLines (namedTrace "login\nplaybook-finished")) =
      printed ["playbook-started Global Before", "  request-started request/login",
        Event.playbookFinished.indentedLine 0, "  payload-variables-substituted",
        "  http-request-prepare-error: external request has no url"] ∧
    Event.playbookFinished.tag ∉ (namedTrace "login\nplaybook-finished").map Event.tag := by
  decide +kernel

end ApiPlaybook
