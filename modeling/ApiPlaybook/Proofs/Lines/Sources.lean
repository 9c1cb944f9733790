/-
  ApiPlaybook.Proofs.Lines.Sources
  ────────────────────────────────
  **WHERE SHOWN TEXTS COME FROM.**

  What a line shows as it is given was given to something that took part in the
  run: to the playbooks that were started, to a request, to the operation that
  it is for, to a credential, to the transport that refused it.  Of a free
  request the URL and the method are given with their values in place
  (`Setup.Supplies`).

  So a line break in a text that is shown is one in such a text: this holds of
  requests that cannot be built (`Setup.prepare_breaksFrom`), and of rules,
  whether they set variables or fail (`Responses.extract_cases`).
-/
import ApiPlaybook.Proofs.Lines.Made
import ApiPlaybook.Proofs.Preparation.Required
import ApiPlaybook.Proofs.Preparation.Segments
import ApiPlaybook.Run.Playbook

namespace ApiPlaybook

/-! ## §1. Texts that are given. -/

/-- The texts of a rule. -/
def ExtractionRule.texts (rule : ExtractionRule) : List String := rule.path :: rule.pattern.toList

/-- The texts of rules, with the names of the variables. -/
def ResponseRules.texts (rules : ResponseRules) : List String :=
  rules.assignments.entries.flatMap fun (name, rule) => name :: rule.texts

def Responses.texts (rs : Responses) : List String := rs.values.flatMap ResponseRules.texts

/-- The texts of a request that can be shown. -/
def Request.texts (r : Request) : List String :=
  r.auth ++ r.operationId.toList ++ [r.defaultResponse.text] ++ r.responses.texts
    ++ (r.template.body.map (·.mediaType)).toList

def Stage.texts (s : Stage) : List String :=
  (s.ref.map (·.id)).toList ++ (s.expected.map (·.text)).toList ++ s.responses.texts

def Playbook.texts (p : Playbook) : List String := p.name :: p.stages.flatMap Stage.texts

/-- The method of a free request, and its URL with the values in the path. -/
def Template.freeTexts (t : Template) : List String :=
  t.methodText ::
    (t.url.bind fun given => (Url.fillPath t.parameters.path false given).toOption).toList

/-- A text was given to something that took part in a run: `own` are the texts of what was
run, and the trace tells what took part. -/
inductive Setup.Supplies (c : Setup) (t : Transport) (own : List String) (trace : List Event) :
    String → Prop where
  | own {text : String} (h : text ∈ own) : Supplies c t own trace text
  | request {ref : RequestRef} {request : Request} {text : String}
      (hstart : .requestStarted ref ∈ trace) (hr : c.bundle.request? ref = some request)
      (h : text ∈ request.texts) : Supplies c t own trace text
  | operation {ref : RequestRef} {request : Request} {id : String} {o : ApiOperation}
      {text : String} (hstart : .requestStarted ref ∈ trace)
      (hr : c.bundle.request? ref = some request) (hid : request.operationId = some id)
      (ho : (c.api.operation? id).value = some o) (h : text = o.path ∨ text = o.base c.server) :
      Supplies c t own trace text
  /-- The values that were put in place are those of a stack that is told. -/
  | free {ref : RequestRef} {request : Request} {stack : ScopeStack}
      {found : List FoundVariable} {missing : List MissingVariable} {text : String}
      (hstart : .requestStarted ref ∈ trace) (hr : c.bundle.request? ref = some request)
      (hid : request.operationId = none) (hvalues : .payloadSubstituted stack found missing ∈ trace)
      (h : text ∈ (substituteTemplate request.template stack).value.freeTexts) :
      Supplies c t own trace text
  | defaultMethod {auth : String} {credential : Credential} (hstart : .authStarted auth ∈ trace)
      (hc : c.bundle.credential? (AuthRef.ofText auth).credential = some credential) :
      Supplies c t own trace credential.defaultMethod
  | acquisition {auth : String} {key : CredentialKey} {credential : Credential}
      {method : CredentialMethod} {stages : List Stage} {text : String}
      (hstart : .authStarted auth ∈ trace) (hm : c.method auth = .ok (key, credential, method))
      (hs : method.stages = some stages) (h : text ∈ stages.flatMap Stage.texts) :
      Supplies c t own trace text
  | transport {request : HttpRequest} {operation : Option String} {sent : List HttpRequest}
      {e : TransportError} {text : String} (hsent : .requestPrepared request operation ∈ trace)
      (he : t sent request = .error e) (h : text ∈ e.shown) : Supplies c t own trace text

/-- If the text has a line break, so has a text that is given. -/
def BreaksFrom (given : String → Prop) (text : String) : Prop :=
  lineBreaks text ≠ 0 → ∃ source, given source ∧ lineBreaks source ≠ 0

section BreaksFrom

variable {given : String → Prop} {text source : String}

/-- A text with a line break has a newline. -/
theorem lineBreaks_ne_zero {s : String} : lineBreaks s ≠ 0 ↔ '\n' ∈ s.toList := by
  rw [Ne, lineBreaks_eq_zero, not_not]

/-- A given text is a source of its own line breaks. -/
theorem BreaksFrom.of_given (h : given text) : BreaksFrom given text :=
  fun hbreak => ⟨text, h, hbreak⟩

/-- A text breaks where those do that it was made of. -/
theorem BreaksFrom.of_newline (h : '\n' ∈ text.toList → ∃ source, given source ∧
    '\n' ∈ source.toList) : BreaksFrom given text := by
  intro hbreak
  obtain ⟨source, hsource, hnewline⟩ := h (lineBreaks_ne_zero.mp hbreak)
  exact ⟨source, hsource, lineBreaks_ne_zero.mpr hnewline⟩

end BreaksFrom

/-! ## §2. Requests that cannot be built. -/

/-- Once the URL is there, only a body can keep a request from being finished: one that does not fit
its media type. -/
theorem RequestDraft.finish_eq_error {d : RequestDraft} {method : String} {body : Option Body}
    {e : BuildError} (h : d.finish method body = .error e) :
    ∃ b, body = some b ∧ e = .badBody b.mediaType := by
  unfold finish at h
  cases body with
  | none => cases h
  | some b =>
    refine ⟨b, rfl, ?_⟩
    unfold bodyText at h
    dsimp only [Option.mapM_some] at h
    split at h
    · cases h
    · split at h
      · split at h
        · cases h
        · cases h
          rfl
      · cases h

/-- The URL of an operation fails in three ways: it has no base, its path lacks a parameter, or the
two joined are no URL. -/
theorem ApiOperation.url_eq_error {o : ApiOperation} {server : String} {values : NameMap Json}
    {e : BuildError} (h : o.url server values = .error e) :
    e = .missingServer o.id ∨
      (∃ name, Url.fillPath values true o.path = .error name ∧ e = .missingPathParameter name) ∨
      ∃ path error, Url.fillPath values true o.path = .ok path ∧
        e = .badUrl (joinPath (o.base server) path) error := by
  -- the three steps in their order: base, path, URL
  cases hblank : isBlankText (o.base server) with
  | true =>
    rw [url_of_blank hblank] at h
    cases h
    exact .inl rfl
  | false =>
    cases hpath : Url.fillPath values true o.path with
    | error name =>
      rw [url_of_missing hblank hpath] at h
      cases h
      exact .inr (.inl ⟨name, rfl, rfl⟩)
    | ok path =>
      rw [url_of_path hblank hpath] at h
      unfold readUrl at h
      cases hread : Url.ofText (joinPath (o.base server) path) with
      | ok u =>
        rw [hread] at h
        cases h
      | error error =>
        rw [hread] at h
        cases h
        exact .inr (.inr ⟨path, error, rfl, rfl⟩)

/-- A name that has no value is written in the path. -/
theorem mem_of_fillPath_eq_error {values : NameMap Json} {path name : String} {ch : Char}
    (h : Url.fillPath values true path = .error name) (hch : ch ∈ name.toList) :
    ch ∈ path.toList := by
  obtain ⟨-, before, after, hpieces, -, -⟩ := Url.fillPath_eq_error.mp h
  rw [← Url.written_pathPieces path.toList, hpieces, List.flatMap_append, List.flatMap_cons]
  simp [Url.PathPiece.written, hch]

/-- Values bring no line break into a path. -/
theorem newline_of_fillPath {values : NameMap Json} {path text : String}
    (h : Url.fillPath values true path = .ok text) (hbreak : '\n' ∈ text.toList) :
    '\n' ∈ path.toList := by
  rw [(fillPath_eq_ok h).1] at hbreak
  obtain ⟨mark, hmark, hbreak⟩ := List.mem_flatMap.mp hbreak
  cases mark with
  | char ch =>
    cases List.mem_singleton.mp hbreak
    exact char_mem_of_mark hmark
  | value name =>
    unfold PathMark.filled at hbreak
    cases hv : values.get? name with
    | none => simp [hv] at hbreak
    | some v =>
      simp only [hv, Option.map_some, Option.getD_some] at hbreak
      exact absurd (plain_of_mem_pathValue hbreak).2.2 (by decide)

/-- A line break of the joined URL is in its base or in its path. -/
theorem newline_of_joinPath {base path : String} (h : '\n' ∈ (joinPath base path).toList) :
    '\n' ∈ base.toList ∨ '\n' ∈ path.toList := by
  unfold joinPath at h
  rw [String.toList_ofList] at h
  rcases List.mem_append.mp h with h | h
  · have hback := (List.dropWhile_suffix (· == '/')).subset (List.mem_reverse.mp h)
    exact .inl (List.mem_reverse.mp hback)
  · rcases List.mem_cons.mp h with h | h
    · exact absurd h (by decide)
    · exact .inr ((List.dropWhile_suffix (· == '/')).subset h)

/-- The media type of a body is kept when values are put in place. -/
theorem mediaType_substituteTemplate (t : Template) (stack : ScopeStack) :
    (substituteTemplate t stack).value.body.map (·.mediaType) = t.body.map (·.mediaType) := by
  have h := (substituteTemplate_filled stack t).body
  generalize (substituteTemplate t stack).value.body = filled at h ⊢
  generalize t.body = body at h ⊢
  cases h with
  | none => rfl
  | some h => exact congrArg some h.1.symm

section Build

variable {c : Setup} {t : Transport} {own : List String} {trace : List Event} {ref : RequestRef}
  {request : Request} {s : Stage} {outer : ScopeStack} {credentials : AuthResult} {e : BuildError}

/-- The media type of a body that cannot be encoded is given with the request. -/
theorem Stage.badBody_supplied (hstart : .requestStarted ref ∈ trace)
    (hr : c.bundle.request? ref = some request) {b : Body}
    (hb : (s.payload request outer).template.body = some b) :
    c.Supplies t own trace b.mediaType := by
  have hmedia := mediaType_substituteTemplate request.template (s.payload request outer).stack
  have hgiven : request.template.body.map (·.mediaType) = some b.mediaType := by
    rw [← hmedia]
    exact congrArg (Option.map (·.mediaType)) hb
  refine .request hstart hr ?_
  unfold Request.texts
  rw [hgiven]
  simp

/-- **A FAILED BUILD** shows texts of the request, of its operation, or of what a free request
became with its values. -/
theorem Setup.prepare_breaksFrom (hstart : .requestStarted ref ∈ trace)
    (hr : c.bundle.request? ref = some request)
    (hvalues : .payloadSubstituted (s.payload request outer).stack (s.payload request outer).found
      (s.payload request outer).missing ∈ trace)
    (h : (c.prepare request (s.payload request outer).template credentials).value = .error e) :
    ∀ text ∈ e.shown, BreaksFrom (c.Supplies t own trace) text := by
  have hfinish {d : RequestDraft} {method : String}
      (h : d.finish method (s.payload request outer).template.body = .error e) :
      ∀ text ∈ e.shown, BreaksFrom (c.Supplies t own trace) text := by
    obtain ⟨b, hb, rfl⟩ := RequestDraft.finish_eq_error h
    exact List.forall_mem_singleton.mpr (.of_given (Stage.badBody_supplied hstart hr hb))
  unfold Setup.prepare at h
  cases hid : request.operationId with
  | none =>
    rw [hid] at h
    have hfree {text : String} (htext : text ∈ (s.payload request outer).template.freeTexts) :
        BreaksFrom (c.Supplies t own trace) text := .of_given (.free hstart hr hid hvalues htext)
    rcases prepareFree_cases (s.payload request outer).template with
      hnone | ⟨given, text, hgiven, hfill, ⟨error, hbad⟩ | ⟨u, -, hfinished⟩⟩
    · cases hnone.symm.trans h
      exact List.forall_mem_nil _
    · cases hbad.symm.trans h
      refine List.forall_mem_singleton.mpr (hfree ?_)
      unfold Template.freeTexts
      rw [hgiven, Option.bind_some, hfill]
      simp [Except.toOption]
    · replace h := hfinished.symm.trans h
      rcases freeMethod_cases (s.payload request outer).template with ⟨method, hmethod, -⟩ | hbad
      · rw [hmethod] at h
        exact hfinish h
      · rw [hbad] at h
        cases h
        exact List.forall_mem_singleton.mpr (hfree (.head _))
  | some id =>
    rw [hid] at h
    have hidShown : BreaksFrom (c.Supplies t own trace) id :=
      .of_given (.request hstart hr (by simp [Request.texts, hid]))
    replace h : (prepareOperation c.api c.server id (s.payload request outer).template
      credentials).value = .error e := h
    rw [prepareOperation_value] at h
    cases ho : (c.api.operation? id).value with
    | none =>
      rw [ho] at h
      cases h
      exact List.forall_mem_singleton.mpr hidShown
    | some o =>
      -- an operation is given with its path and its base
      have hpath : c.Supplies t own trace o.path := .operation hstart hr hid ho (.inl rfl)
      have hbase : c.Supplies t own trace (o.base c.server) :=
        .operation hstart hr hid ho (.inr rfl)
      rw [ho] at h
      dsimp only at h
      cases hurl : o.url c.server (s.payload request outer).template.parameters.path with
      | ok u =>
        rw [ApiOperation.prepare_value_of_url hurl] at h
        exact hfinish h
      | error e' =>
        rw [ApiOperation.prepare_value_of_error hurl] at h
        cases h
        rcases ApiOperation.url_eq_error hurl with rfl | ⟨name, hfill, rfl⟩ |
          ⟨path, error, hfill, rfl⟩
        · refine List.forall_mem_singleton.mpr ?_
          rw [(ApiDocument.operation?_eq_some ho).1]
          exact hidShown
        · exact List.forall_mem_singleton.mpr (.of_newline fun hbreak =>
            ⟨o.path, hpath, mem_of_fillPath_eq_error hfill hbreak⟩)
        · refine List.forall_mem_singleton.mpr (.of_newline fun hbreak => ?_)
          rcases newline_of_joinPath hbreak with hbreak | hbreak
          · exact ⟨_, hbase, hbreak⟩
          · exact ⟨_, hpath, newline_of_fillPath hfill hbreak⟩

end Build

/-! ## §3. Rules. -/

/-- A fault of a rule shows texts of that rule. -/
def ExtractionFault.IsOf (rule : ExtractionRule) (f : ExtractionFault) : Prop :=
  f.IsRegular ∧ ∀ text ∈ f.shown, text ∈ rule.texts

section Rules

variable {rule : ExtractionRule} {f : ExtractionFault} {request : HttpRequest}
  {response : HttpResponse}

/-- If there is no value, then for a fault of the rule. -/
def FailsOf {α : Type} (rule : ExtractionRule) (found : Except ExtractionFault α) : Prop :=
  ∀ f, found = .error f → f.IsOf rule

namespace FailsOf

variable {α β : Type}

/-- Where nothing fails, nothing has to be said. -/
theorem ok (v : α) : FailsOf rule (.ok v) := fun _ h => nomatch h

/-- A fault that is one of the rule. -/
theorem error (h : f.IsOf rule) : FailsOf rule (.error f : Except ExtractionFault α) := by
  intro f' hf
  cases hf
  exact h

/-- The first of two steps fails, or the second does. -/
theorem bind {x : Except ExtractionFault α} {g : α → Except ExtractionFault β}
    (hx : FailsOf rule x) (hg : ∀ v, FailsOf rule (g v)) : FailsOf rule (x >>= g) := by
  cases x with
  | error f => exact .error (hx f rfl)
  | ok v => exact hg v

/-- A fault that shows nothing. -/
theorem silent (hr : f.IsRegular) (hs : f.shown = []) :
    FailsOf rule (.error f : Except ExtractionFault α) :=
  .error ⟨hr, hs ▸ List.forall_mem_nil _⟩

/-- A fault that shows one text of the rule. -/
theorem showing {text : String} (hr : f.IsRegular) (hs : f.shown = [text])
    (h : text ∈ rule.texts) : FailsOf rule (.error f : Except ExtractionFault α) :=
  .error ⟨hr, hs ▸ List.forall_mem_singleton.mpr h⟩

end FailsOf

/-- A rule that reads the body fails with its own path and side. -/
theorem failsOf_bodyValue (rule : ExtractionRule) (body : String) :
    FailsOf rule (bodyValue rule body) := by
  -- a path in either language may lead to nothing
  have hnothing : FailsOf rule
      (.error (.nothingThere .body rule.path rule.side) : Except ExtractionFault Json) :=
    .showing trivial rfl (.head _)
  unfold bodyValue
  dsimp only
  by_cases hblank : isBlankText body = true
  · rw [if_pos hblank]
    exact .silent (f := .emptyBody rule.side) trivial rfl
  · rw [if_neg hblank]
    cases Json.parse body with
    | error e => exact .silent (f := .badJson rule.side e) trivial rfl
    | ok j =>
      refine .bind (.ok j) fun j => ?_
      cases rule.pathKind with
      | pointer =>
        refine .bind (.ok (j.pointer? rule.path)) fun found => ?_
        cases found with
        | some value => exact .ok value
        | none => exact hnothing
      | jsonPath =>
        cases JsonPath.ofText? rule.path with
        | none => exact .showing (f := .badJsonPath rule.path) trivial rfl (.head _)
        | some segments =>
          refine .bind (.ok (JsonPath.query j segments).head?) fun found => ?_
          cases found with
          | some value => exact .ok value
          | none => exact hnothing

/-- A rule that reads a text fails because there is none. -/
theorem failsOf_textAt (rule : ExtractionRule) (text? : Option String) :
    FailsOf rule (textAt rule text?) := by
  cases text? with
  | some text => exact .ok _
  | none => exact .showing trivial rfl (.head _)

/-- Wherever a rule looks, its faults are its own. -/
theorem ExtractionRule.failsOf_find (rule : ExtractionRule) (response : HttpResponse)
    (hurl : lineBreaks request.url = 0) : FailsOf rule (rule.find request response) := by
  unfold find
  split
  · exact failsOf_bodyValue rule _
  · exact failsOf_bodyValue rule _
  · exact failsOf_textAt rule _
  · exact failsOf_textAt rule _
  · split
    · exact failsOf_textAt rule _
    · exact .silent hurl rfl
  · exact failsOf_textAt rule _
  · exact failsOf_textAt rule _

/-- A pattern that does not match fails with itself. -/
theorem failsOf_matchedPart {pattern : String} (h : rule.pattern = some pattern) (value : Json) :
    FailsOf rule (matchedPart pattern value) := by
  have hpattern : pattern ∈ rule.texts := by simp [ExtractionRule.texts, h]
  unfold matchedPart
  split
  · exact .showing trivial rfl hpattern
  · split
    · exact .ok _
    · exact .showing trivial rfl hpattern

theorem ExtractionRule.failsOf_extract (rule : ExtractionRule) (response : HttpResponse)
    (hurl : lineBreaks request.url = 0) : FailsOf rule (rule.extract request response) := by
  refine .bind (rule.failsOf_find response hurl) fun value => ?_
  cases hpattern : rule.pattern with
  | none => exact .ok value
  | some pattern => exact failsOf_matchedPart hpattern value

/-- The fault of rules is that of one of them. -/
theorem FirstFault.isOf {response : HttpResponse} (hurl : lineBreaks request.url = 0)
    {rules : List (String × ExtractionRule)} {e : ExtractionError}
    (h : FirstFault request response rules e) :
    ∃ rule, (e.name, rule) ∈ rules ∧ e.fault.IsOf rule := by
  obtain ⟨before, rule, after, rfl, -, hfault⟩ := h
  exact ⟨rule, List.mem_append_right before (.head _),
    rule.failsOf_extract response hurl e.fault hfault⟩

end Rules

namespace Responses

variable {rs : Responses} {request : HttpRequest}

/-- A text of one entry is a text of the map of rules. -/
theorem mem_texts {rules : ResponseRules} (hrules : rules ∈ rs.values)
    {entry : String × ExtractionRule} (hentry : entry ∈ rules.assignments.entries) {text : String}
    (h : text ∈ entry.1 :: entry.2.texts) : text ∈ rs.texts :=
  List.mem_flatMap.mpr ⟨rules, hrules, List.mem_flatMap.mpr ⟨entry, hentry, h⟩⟩

theorem names_mem_texts {rules : ResponseRules} (hrules : rules ∈ rs.values) :
    ∀ name ∈ rules.assignments.names, name ∈ rs.texts := by
  intro name hname
  obtain ⟨entry, hentry, rfl⟩ := List.mem_map.mp hname
  exact mem_texts hrules hentry (.head _)

/-- **RULES SHOW THEIR OWN TEXTS**, whatever the reply is: the names that they set, or the name,
the path or the pattern of one that fails. -/
theorem extract_cases (rs : Responses) (id : String) (reply : Reply)
    (hurl : lineBreaks request.url = 0) :
    (∃ scope, rs.extract id request reply = .ok scope ∧
      ∀ text ∈ (Event.variablesAssigned scope).shown, text ∈ rs.texts) ∨
    ∃ e, rs.extract id request reply = .error e ∧ (RunError.extraction e).IsRegular ∧
      ∀ text ∈ (RunError.extraction e).shown, text ∈ rs.texts := by
  cases hextract : rs.extract id request reply with
  | ok scope =>
    refine .inl ⟨scope, rfl, fun text htext => ?_⟩
    obtain ⟨made, hmade, rfl⟩ := exists_assignAll_of_extract hextract
    rw [Event.shown, Scope.assignAll_eq] at htext
    obtain ⟨rules, hrules, htext⟩ := List.mem_flatMap.mp (hmade htext)
    exact names_mem_texts hrules text htext
  | error e =>
    cases reply with
    | mock =>
      rw [extract_mock] at hextract
      cases hextract
    | response response =>
      -- the error is that of the first rule without a value
      rw [extract_response, extractInto_eq_error] at hextract
      obtain ⟨rule, hrule, hfault⟩ := hextract.isOf hurl
      obtain ⟨rules, hrules, hmem⟩ := exists_of_mem_rulesFor hrule
      refine .inr ⟨e, rfl, hfault.1, fun text htext => ?_⟩
      rcases List.mem_cons.mp htext with rfl | htext
      · exact mem_texts hrules hmem (.head _)
      · exact mem_texts hrules hmem (.tail _ (hfault.2 text htext))

end Responses

end ApiPlaybook
