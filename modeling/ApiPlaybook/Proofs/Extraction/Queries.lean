/-
  ApiPlaybook.Proofs.Extraction.Queries
  ─────────────────────────────────────
  **QUERIES ARE READ BACK.**

  The builder appends the parameters of a template and the credentials to the
  query of a URL, leaves an empty query out and prints the URL.  A rule reads
  the text of the URL again and looks for a pair in its query.

      the text is read without an error, whatever the URL, the names and the
      values are, for it is the text of a URL that was read
      (`RequestDraft.isRead_addAll`, `Url.IsRead.exists_ofList`),
      with the pairs of the URL first, then those of the template in the order
      of their names, then those of the credentials in the order of their
      references (`query_read_back`).

  So a rule without a pattern finds the first of them that has its name; in the
  chain of the rules that a reply selects it sets its variable to that value, or
  ends the extraction where there is none.
-/
import ApiPlaybook.Proofs.Extraction.Chains
import ApiPlaybook.Proofs.Extraction.Cookies
import ApiPlaybook.Proofs.Url.Rereading

namespace ApiPlaybook

/-! ## §1. The URL of a request. -/

/-- The URL of a draft is one that could be read, whatever is added. -/
theorem RequestDraft.isRead_addAll {d : RequestDraft} (h : d.url.IsRead)
    (additions : List Addition) : (d.addAll additions).url.IsRead := by
  induction additions generalizing d with
  | nil => exact h
  | cons addition rest ih =>
    -- only a pair touches the URL, and only its query
    refine ih (d := d.add addition) ?_
    cases addition with
    | pair name value => exact h.withPair name value
    | header name value => exact h
    | cookie name value => exact h

/-- The pairs for the query among the parameters of a template. -/
def Template.queryPairs (t : Template) : List (String × String) :=
  t.parameters.query.entries.map fun e => (e.1, e.2.inlineText)

/-- The pairs for the query among credentials, in the order of their references. -/
def AuthResult.queryPairs (credentials : AuthResult) : List (String × String) :=
  credentials.entries.filterMap fun e => e.2.addition?.bind (·.pair?)

section Request

variable {t : Template} {credentials : AuthResult}

/-- The pairs of the base, those of the template and those of the credentials, in this order. -/
theorem queryPairs_draftOf (u : Url) : (draftOf u t credentials).url.queryPairs
    = u.queryPairs ++ t.queryPairs ++ credentials.queryPairs := by
  have hadditions : (t.parameters.additions ++ credentials.additions).filterMap (·.pair?)
      = t.queryPairs ++ credentials.queryPairs := by
    unfold Template.queryPairs AuthResult.queryPairs Parameters.additions AuthResult.additions
    rw [List.filterMap_append, List.filterMap_append, List.filterMap_append,
      List.filterMap_filterMap]
    simp [List.filterMap_map, Addition.pair?]
  unfold draftOf
  rw [RequestDraft.addAll_queryPairs, hadditions, List.append_assoc]
  rfl

/-- The text of the URL of a finished draft is read again, with all pairs in its query. -/
theorem exists_ofText_of_finish {u : Url} (hu : u.IsRead) {method : String} {body : Option Body}
    {r : HttpRequest} (hr : (draftOf u t credentials).finish method body = .ok r) :
    ∃ sent, Url.ofText r.url = .ok sent ∧
      sent.queryPairs = u.queryPairs ++ t.queryPairs ++ credentials.queryPairs := by
  -- the URL that is printed could have been read, so its text is read
  have hread : (draftOf u t credentials).url.withoutEmptyQuery.IsRead :=
    (RequestDraft.isRead_addAll (d := .ofUrl u) hu _).withoutEmptyQuery
  obtain ⟨sent, hsent, hquery⟩ := hread.exists_ofList
  refine ⟨sent, ?_, ?_⟩
  · rw [(RequestDraft.finish_eq_ok hr).1]
    unfold Url.ofText Url.text
    rw [String.toList_ofList]
    exact hsent
  · rw [← queryPairs_draftOf, ← Url.queryPairs_withoutEmptyQuery (draftOf u t credentials).url]
    unfold Url.queryPairs
    rw [hquery]

end Request

/-! ## §2. A rule in its chain. -/

section Chain

variable {request : HttpRequest} {response : HttpResponse} {rules : List (String × ExtractionRule)}

/-- Rules behind other rules go on with the scope that these leave. -/
theorem extractInto_append (scope : Scope) (before after : List (String × ExtractionRule)) :
    extractInto request response scope (before ++ after)
      = (extractInto request response scope before).bind
          (extractInto request response · after) := by
  induction before generalizing scope with
  | nil => rfl
  | cons head rest ih =>
    obtain ⟨name, rule⟩ := head
    rw [List.cons_append, extractInto, extractInto]
    cases rule.extract request response with
    | error fault => rfl
    | ok value => exact ih (scope.assign name value)

/-- An extraction ends at one of its rules. -/
theorem name_of_extractInto {scope : Scope} {e : ExtractionError}
    (h : extractInto request response scope rules = .error e) : e.name ∈ rules.map (·.1) := by
  obtain ⟨before, rule, after, rfl, -, -⟩ := extractInto_eq_error.mp h
  simp

/-- The rules for the status of a response lead to one of them, with a scope of the variables so
far and other rules behind it. -/
structure Responses.LeadsTo (rs : Responses) (id : String) (request : HttpRequest)
    (response : HttpResponse) (name : String) (rule : ExtractionRule) (scope : Scope)
    (after : List (String × ExtractionRule)) : Prop where
  selected : ∃ rules before, rs.select? response.status = some rules ∧
    rules.assignments.entries = before ++ (name, rule) :: after ∧
    extractInto request response (.empty id) before = .ok scope

/-- A rule gives its variable the first of the pairs that has its name, and ends the extraction
only where there is none. -/
structure ExtractionRule.AssignsFirst (rule : ExtractionRule) (rs : Responses) (id : String)
    (request : HttpRequest) (response : HttpResponse) (name : String) (scope : Scope)
    (after : List (String × ExtractionRule)) (pairs : List (String × String)) : Prop where
  first : ∀ before value rest, pairs = before ++ (rule.path, value) :: rest →
    (∀ p ∈ before, p.1 ≠ rule.path) → rs.extract id request (.response response)
      = extractInto request response (scope.assign name (.string value)) after
  nothing : rs.extract id request (.response response)
      = .error ⟨name, .nothingThere rule.location rule.path rule.side⟩ ↔
    ∀ p ∈ pairs, p.1 ≠ rule.path

/-- What a rule finds first is what the map of rules assigns by it, in its place among them. -/
theorem ExtractionRule.FindsFirst.assignsFirst {rule : ExtractionRule} {rs : Responses}
    {id name : String} {scope : Scope} {after : List (String × ExtractionRule)}
    {pairs : List (String × String)} (h : rule.FindsFirst request response pairs)
    (hrule : rs.LeadsTo id request response name rule scope after) :
    rule.AssignsFirst rs id request response name scope after pairs := by
  obtain ⟨rules, before, hselect, hentries, hbefore⟩ := hrule.selected
  have hextract : rs.extract id request (.response response)
      = extractInto request response scope ((name, rule) :: after) := by
    unfold Responses.extract
    dsimp only
    rw [hselect]
    dsimp only
    rw [hentries, extractInto_append, hbefore]
    rfl
  have hfirst : ∀ before value rest, pairs = before ++ (rule.path, value) :: rest →
      (∀ p ∈ before, p.1 ≠ rule.path) → rs.extract id request (.response response)
        = extractInto request response (scope.assign name (.string value)) after := by
    intro before value rest hpairs hnone
    rw [hextract, extractInto, h.first before value rest hpairs hnone]
  refine ⟨hfirst, fun hend => h.nothing.mp ?_, fun hnone => ?_⟩
  · -- the rules behind it have other names, so it is this one that has no value
    rw [hextract, extractInto] at hend
    cases hvalue : rule.extract request response with
    | error fault =>
      rw [hvalue] at hend
      exact congrArg Except.error (ExtractionError.mk.inj (Except.error.inj hend)).2
    | ok value =>
      rw [hvalue] at hend
      obtain ⟨e, he, hname⟩ := List.mem_map.mp (name_of_extractInto hend)
      have horder := rules.assignments.inOrder
      rw [hentries] at horder
      have hbehind := (List.pairwise_cons.mp (List.pairwise_append.mp horder).2.1).1 e he
      dsimp only at hname
      rw [hname] at hbehind
      exact absurd hbehind (String.lt_irrefl name)
  · rw [hextract, extractInto, h.nothing.mpr hnone]

end Chain

/-! ## §3. The query of a request. -/

/-- The pairs in the query of a request, as rules see them. -/
structure HttpRequest.QueryReads (r : HttpRequest) (pairs : List (String × String)) : Prop where
  sent : ∃ sent, Url.ofText r.url = .ok sent ∧ sent.queryPairs = pairs
  finds : ∀ (rule : ExtractionRule) (response : HttpResponse), rule.location = .query →
    rule.pattern = none → rule.FindsFirst r response pairs
  assigns : ∀ (rs : Responses) (id : String) (response : HttpResponse) (name : String)
    (rule : ExtractionRule) (scope : Scope) (after : List (String × ExtractionRule)),
    rule.location = .query → rule.pattern = none → rs.LeadsTo id r response name rule scope after →
      rule.AssignsFirst rs id r response name scope after pairs

/-- The pairs of a request are those of its URL, which is read as it was written. -/
theorem HttpRequest.queryReads {r : HttpRequest} {pairs : List (String × String)}
    (h : ∃ sent, Url.ofText r.url = .ok sent ∧ sent.queryPairs = pairs) : r.QueryReads pairs := by
  have hfinds : ∀ (rule : ExtractionRule) (response : HttpResponse), rule.location = .query →
      rule.pattern = none → rule.FindsFirst r response pairs := by
    intro rule response hlocation hpattern
    obtain ⟨sent, hsent, hpairs⟩ := h
    refine rule.findsFirst_of_find hpattern ?_
    unfold ExtractionRule.find
    rw [hlocation, hsent, ← hpairs]
  exact ⟨h, hfinds, fun rs id response name rule scope after hlocation hpattern hrule =>
    (hfinds rule response hlocation hpattern).assignsFirst hrule⟩

/-- **QUERIES ARE READ BACK.**  A request that was built has the pairs that the query of its URL
had before anything was added, then those of the template's parameters in the order of their names,
then those of the credentials in the order of their references; and a rule for the query without a
pattern finds the first of them that has its name. -/
theorem query_read_back (t : Template) :
    (∀ (doc : ApiDocument) (server id : String) (credentials : AuthResult) (r : HttpRequest),
      (prepareOperation doc server id t credentials).value = .ok r →
        ∃ o path start, (doc.operation? id).value = some o ∧
          Url.fillPath t.parameters.path true o.path = .ok path ∧
          Url.ofText (joinPath (o.base server) path) = .ok start ∧
          r.QueryReads (start.queryPairs ++ t.queryPairs ++ credentials.queryPairs)) ∧
    ∀ r, prepareFree t = .ok r →
      ∃ given text start, t.url = some given ∧
        Url.fillPath t.parameters.path false given = .ok text ∧ Url.ofText text = .ok start ∧
        r.QueryReads (start.queryPairs ++ t.queryPairs) := by
  constructor
  · intro doc server id credentials r hr
    obtain ⟨o, start, ho, hurl, hfinish⟩ := prepareOperation_value_eq_ok hr
    obtain ⟨path, hpath, hstart⟩ := ApiOperation.url_eq_ok hurl
    refine ⟨o, path, start, ho, hpath, hstart, HttpRequest.queryReads ?_⟩
    exact exists_ofText_of_finish (Url.isRead_of_ofList hstart) hfinish
  · intro r hr
    obtain ⟨given, text, start, method, hgiven, htext, hstart, hfinish⟩ :=
      exists_url_of_prepareFree hr
    refine ⟨given, text, start, hgiven, htext, hstart, HttpRequest.queryReads ?_⟩
    have hsent := exists_ofText_of_finish (Url.isRead_of_ofList hstart) hfinish
    rwa [show AuthResult.queryPairs .empty = [] from rfl, List.append_nil] at hsent

/-- A template with two pairs for the query. -/
def queryTemplate : Template :=
  ⟨none, none, ⟨.ofList [("a", .string "é"), ("b", .string "p q&")], .empty, .empty, .empty⟩, none⟩

def secondKey : AuthResult := .ofList [("key", keyInQuery "b" "1")]

/-- The base has a pair of its own, whose value goes on with the path. -/
def queryRequest : Except BuildError HttpRequest :=
  (prepareOperation itemsApi "http://[::1]/?a=0" "list" queryTemplate secondKey).value

def queryRule (name : String) : ExtractionRule := ⟨.request, .query, .pointer, name, none⟩

/-- A rule for `b`. -/
def queryRules : ResponseRules := ⟨.ofList [("x", queryRule "b")]⟩

/-- The rules at hand are selected for their status. -/
theorem select?_queryRules :
    Responses.select? (.ofList [("200", queryRules)]) 200 = some queryRules := by
  have hkey : sameIgnoringCase (trimBlanks "200") (decimal 200) = true := by decide +kernel
  have hfound : Responses.findNormal? (.ofList [("200", queryRules)]) (decimal 200)
      = some queryRules := by
    show (List.find? (fun e => sameIgnoringCase (trimBlanks e.1) (decimal 200))
      [("200", queryRules)]).map (·.2) = _
    rw [List.find?_cons, hkey]
    rfl
  unfold Responses.select? selectionKeys
  rw [List.findSome?_cons, hfound]

/-- The pairs of the request at hand. -/
theorem queryPairs_queryRequest :
    (Url.ofText "http://[::1]/?a=0/items&a=%C3%A9&b=p+q%26&b=1").toOption.map (·.queryPairs)
      = some [("a", "0/items"), ("a", "é"), ("b", "p q&"), ("b", "1")] := by decide +kernel

/-- Of two pairs with one name the first is found, and sets the variable. -/
theorem query_read_back_secondKey : ∃ r, queryRequest = .ok r ∧
    (∀ response, (queryRule "a").extract r response = .ok (.string "0/items")) ∧
    (∀ response, (queryRule "c").extract r response
      = .error (.nothingThere .query "c" .request)) ∧
    Responses.extract (.ofList [("200", queryRules)]) "run" r (.response ⟨200, .empty, ""⟩)
      = .ok ((Scope.empty "run").assign "x" (.string "p q&")) := by
  obtain ⟨r, hr, hurl⟩ := exists_of_toOption_map queryRequest (·.url)
    "http://[::1]/?a=0/items&a=%C3%A9&b=p+q%26&b=1" (by decide +kernel)
  obtain ⟨o, path, start, -, -, -, hreads⟩ := (query_read_back queryTemplate).1 _ _ _ _ r hr
  obtain ⟨sent, hsent, hpairs⟩ := hreads.sent
  have hknown := queryPairs_queryRequest
  rw [← hurl, hsent] at hknown
  have hknown : sent.queryPairs = _ := Option.some.inj hknown
  rw [← hpairs, hknown] at hreads
  refine ⟨r, hr, fun response => ?_, fun response => ?_, ?_⟩
  · exact (hreads.finds _ response rfl rfl).first [] "0/items" _ rfl nofun
  · refine (hreads.finds (queryRule "c") response rfl rfl).nothing.mpr ?_
    decide
  · have hleads : Responses.LeadsTo (.ofList [("200", queryRules)]) "run" r ⟨200, .empty, ""⟩
        "x" (queryRule "b") (.empty "run") [] :=
      ⟨⟨queryRules, [], select?_queryRules, rfl, rfl⟩⟩
    exact (hreads.assigns _ _ _ _ _ _ _ rfl rfl hleads).first
      [("a", "0/items"), ("a", "é")] "p q&" _ rfl (by decide)

end ApiPlaybook
