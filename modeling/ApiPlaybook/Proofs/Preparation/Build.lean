/-
  ApiPlaybook.Proofs.Preparation.Build
  ────────────────────────────────────
  **WHAT A BUILT REQUEST CAME FROM.**

  A request that was built for an operation tells how it was built: the
  operation was found, its base is not blank, all its placeholders had values,
  the two made a URL, and a draft that started from this URL was finished
  (`prepareOperation_value_eq_ok`).  It fails for want of a server exactly when
  the base of the operation is blank
  (`ApiOperation.prepare_value_eq_missingServer`).
  A free request is a finished draft too (`prepareFree_cases`).
-/
import ApiPlaybook.Preparation
import ApiPlaybook.Proofs.Url.PathTemplates

namespace ApiPlaybook

/-- What was read off a result. -/
theorem exists_of_toOption_map {ε α β : Type} (e : Except ε α) (f : α → β) (b : β)
    (h : e.toOption.map f = some b) : ∃ a, e = .ok a ∧ f a = b := by
  cases e with
  | error e => cases h
  | ok a => exact ⟨a, rfl, Option.some.inj h⟩

/-! ## §1. The URL. -/

/-- A URL is read when its text is one. -/
theorem readUrl_eq_ok {s : String} {u : Url} : readUrl s = .ok u ↔ Url.ofText s = .ok u := by
  unfold readUrl
  cases Url.ofText s with
  | error e => exact ⟨nofun, nofun⟩
  | ok u' => exact ⟨fun h => by cases h; rfl, fun h => by cases h; rfl⟩

/-- Reading a URL never finds that the server is missing. -/
theorem readUrl_ne_missingServer (s id : String) : readUrl s ≠ .error (.missingServer id) := by
  unfold readUrl
  cases Url.ofText s <;> exact nofun

namespace ApiOperation

variable {o : ApiOperation} {server : String} {values : NameMap Json}

/-- An operation whose base is blank has no server. -/
theorem url_of_blank (h : isBlankText (o.base server) = true) :
    o.url server values = .error (.missingServer o.id) := by
  unfold ApiOperation.url
  dsimp only
  rw [if_pos h]
  rfl

/-- With a base, the first placeholder without a value is told. -/
theorem url_of_missing {name : String} (h : isBlankText (o.base server) = false)
    (hpath : Url.fillPath values true o.path = .error name) :
    o.url server values = .error (.missingPathParameter name) := by
  unfold ApiOperation.url
  dsimp only
  rw [if_neg (by simp [h]), hpath]
  rfl

/-- With all of them filled, base and path are joined and read. -/
theorem url_of_path {path : String} (h : isBlankText (o.base server) = false)
    (hpath : Url.fillPath values true o.path = .ok path) :
    o.url server values = readUrl (joinPath (o.base server) path) := by
  have hread : (Except.ok path).mapError BuildError.missingPathParameter = .ok path := rfl
  unfold ApiOperation.url
  dsimp only
  rw [if_neg (by simp [h]), hpath, hread]
  simp only [bind, Except.bind]

/-- The URL was read from the base and the path with all its values. -/
theorem url_eq_ok {u : Url} (h : o.url server values = .ok u) :
    ∃ path, Url.fillPath values true o.path = .ok path ∧
      Url.ofText (joinPath (o.base server) path) = .ok u := by
  cases hblank : isBlankText (o.base server) with
  | true =>
    rw [url_of_blank hblank] at h
    cases h
  | false =>
    cases hpath : Url.fillPath values true o.path with
    | error name =>
      rw [url_of_missing hblank hpath] at h
      cases h
    | ok path =>
      rw [url_of_path hblank hpath] at h
      exact ⟨path, rfl, readUrl_eq_ok.mp h⟩

/-- The server is missing exactly when the base is blank. -/
theorem url_eq_missingServer {id : String} :
    o.url server values = .error (.missingServer id) ↔
      isBlankText (o.base server) = true ∧ id = o.id := by
  cases hblank : isBlankText (o.base server) with
  | true =>
    rw [url_of_blank hblank]
    simp [eq_comm]
  | false =>
    refine ⟨fun h => ?_, nofun⟩
    -- what is left can fail for a name without a value and for a bad URL only
    cases hpath : Url.fillPath values true o.path with
    | error name =>
      rw [url_of_missing hblank hpath] at h
      cases h
    | ok path =>
      rw [url_of_path hblank hpath] at h
      exact absurd h (readUrl_ne_missingServer _ _)

end ApiOperation

/-! ## §2. The draft. -/

namespace RequestDraft

/-- A finished draft has its URL and its headers. -/
theorem finish_eq_ok {d : RequestDraft} {method : String} {body : Option Body} {r : HttpRequest}
    (h : d.finish method body = .ok r) :
    r.url = d.url.withoutEmptyQuery.text ∧
      r.headers = headersWithType d.headersWithCookies body := by
  unfold finish at h
  cases htext : body.mapM bodyText with
  | error e =>
    rw [htext] at h
    cases h
  | ok text =>
    rw [htext] at h
    cases h
    exact ⟨rfl, rfl⟩

theorem bodyText_ne_missingServer (b : Body) (id : String) :
    bodyText b ≠ .error (.missingServer id) := by
  unfold bodyText
  dsimp only
  split
  · exact nofun
  · split
    · split <;> exact nofun
    · exact nofun

/-- A draft has its URL, so it is never found to want a server when it is finished. -/
theorem finish_ne_missingServer (d : RequestDraft) (method : String) (body : Option Body)
    (id : String) : d.finish method body ≠ .error (.missingServer id) := by
  unfold finish
  cases body with
  | none => exact nofun
  | some b =>
    intro h
    cases htext : bodyText b with
    | error e =>
      simp only [Option.mapM_some, htext] at h
      cases h
      exact bodyText_ne_missingServer b id htext
    | ok text =>
      simp only [Option.mapM_some, htext] at h
      cases h

end RequestDraft

/-- What is added to a draft, and where. -/
inductive Addition where
  | pair (name value : String)
  | header (name value : String)
  | cookie (name value : String)
deriving DecidableEq

namespace RequestDraft

def add (d : RequestDraft) : Addition → RequestDraft
  | .pair name value => d.addPair name value
  | .header name value => d.setHeader name value
  | .cookie name value => d.addCookie name value

def addAll (d : RequestDraft) (additions : List Addition) : RequestDraft := additions.foldl add d

theorem addAll_append (d : RequestDraft) (additions more : List Addition) :
    d.addAll (additions ++ more) = (d.addAll additions).addAll more :=
  List.foldl_append

end RequestDraft

/-- What the parameters of a template add. -/
def Parameters.additions (ps : Parameters) : List Addition :=
  (ps.query.entries.map fun e => .pair e.1 e.2.inlineText)
    ++ (ps.header.entries.map fun e => .header e.1 e.2.inlineText)
    ++ ps.cookie.entries.map fun e => .cookie e.1 e.2.inlineText

/-- What a credential adds. -/
def SecurityScheme.addition (scheme : SecurityScheme) (c : ResolvedCredential) : Addition :=
  match scheme.kind with
  | .apiKey =>
    let name := scheme.name.getD c.key.credential
    match scheme.location.getD .header with
    | .header => .header name c.value
    | .query => .pair name c.value
    | .cookie => .cookie name c.value
  | .basic => .header "Authorization" ("Basic " ++ RequestDraft.basicToken c.value)
  | .bearer | .oauth2 | .openIdConnect => .header "Authorization" ("Bearer " ++ c.value)

/-- A credential without a scheme adds nothing. -/
def ResolvedCredential.addition? (c : ResolvedCredential) : Option Addition :=
  c.scheme.map fun scheme => scheme.addition c

/-- What the credentials of a request add, in the order of their references. -/
def AuthResult.additions (credentials : AuthResult) : List Addition :=
  credentials.entries.filterMap fun e => e.2.addition?

namespace RequestDraft

/-- The parameters of a template are additions in the order of their maps. -/
theorem addParameters_eq (d : RequestDraft) (ps : Parameters) :
    d.addParameters ps = d.addAll ps.additions := by
  unfold Parameters.additions
  rw [addAll_append, addAll_append]
  unfold addAll addParameters
  simp only [List.foldl_map]
  rfl

/-- A credential with a scheme is one addition. -/
theorem carry_eq (d : RequestDraft) (c : ResolvedCredential) (scheme : SecurityScheme) :
    d.carry c scheme = d.add (scheme.addition c) := by
  unfold carry SecurityScheme.addition
  cases scheme.kind with
  | apiKey => cases scheme.location.getD .header <;> rfl
  | basic | bearer | oauth2 | openIdConnect => rfl

theorem addCredential_value (d : RequestDraft) (auth : String) (c : ResolvedCredential) :
    (d.addCredential auth c).value
      = match c.addition? with
        | some addition => d.add addition
        | none => d := by
  unfold addCredential ResolvedCredential.addition?
  cases c.scheme with
  | none => rfl
  | some scheme => exact d.carry_eq c scheme

/-- The credentials of a request are the additions of those with a scheme. -/
theorem addCredentials_value (d : RequestDraft) (credentials : AuthResult) :
    (d.addCredentials credentials).value = d.addAll credentials.additions := by
  unfold addCredentials AuthResult.additions
  generalize credentials.entries = entries
  induction entries generalizing d with
  | nil => rfl
  | cons e rest ih =>
    obtain ⟨auth, c⟩ := e
    -- the value of a chain of additions is that of the rest, from the first value on
    refine (ih (d.addCredential auth c).value).trans ?_
    rw [addCredential_value]
    cases ha : c.addition? with
    | none => simp only [List.filterMap_cons, ha]
    | some addition =>
      simp only [List.filterMap_cons, ha]
      rfl

end RequestDraft

/-- The draft of a request: the URL with the parameters of a template and credentials. -/
def draftOf (url : Url) (t : Template) (credentials : AuthResult) : RequestDraft :=
  (RequestDraft.ofUrl url).addAll (t.parameters.additions ++ credentials.additions)

/-- The draft of a request has the parameters first and the credentials behind them. -/
theorem draftOf_eq (url : Url) (t : Template) (credentials : AuthResult) :
    (((RequestDraft.ofUrl url).addParameters t.parameters).addCredentials credentials).value
      = draftOf url t credentials := by
  rw [RequestDraft.addCredentials_value, RequestDraft.addParameters_eq,
    ← RequestDraft.addAll_append]
  rfl

/-- Additions leave the URL as it is but for its query. -/
theorem RequestDraft.addAll_url (d : RequestDraft) (additions : List Addition) :
    ∃ query, (d.addAll additions).url = { d.url with query := query } := by
  induction additions generalizing d with
  | nil => exact ⟨d.url.query, rfl⟩
  | cons addition rest ih =>
    obtain ⟨query, hquery⟩ := ih (d.add addition)
    refine ⟨query, hquery.trans ?_⟩
    cases addition <;> rfl

/-- Behind an authority the path is kept when an empty query is left out. -/
theorem withoutEmptyQuery_eq {u : Url} {parts : List (List Char)} (h : u.path = .segments parts) :
    ∃ query, u.withoutEmptyQuery = { u with query := query } := by
  unfold Url.withoutEmptyQuery
  split
  · exact ⟨none, by simp [h, Url.Path.withoutEndBlanks]⟩
  · exact ⟨u.query, rfl⟩

/-- A request goes to the URL of its draft, with another query. -/
theorem url_of_finish_draftOf {u : Url} {t : Template} {credentials : AuthResult}
    {method : String} {body : Option Body} {r : HttpRequest} {parts : List (List Char)}
    (h : (draftOf u t credentials).finish method body = .ok r) (hpath : u.path = .segments parts) :
    ∃ query, r.url = Url.text { u with query := query } := by
  obtain ⟨query, hurl⟩ := RequestDraft.addAll_url (.ofUrl u)
    (t.parameters.additions ++ credentials.additions)
  have hurl : (draftOf u t credentials).url = { u with query := query } := hurl
  obtain ⟨query', hquery⟩ := withoutEmptyQuery_eq (u := (draftOf u t credentials).url)
    (by rw [hurl]; exact hpath)
  exact ⟨query', by rw [(RequestDraft.finish_eq_ok h).1, hquery, hurl]⟩

/-! ## §3. The request. -/

section Request

variable {o : ApiOperation} {doc : ApiDocument} {server id : String} {t : Template}
  {credentials : AuthResult}

/-- With a URL, an operation is prepared by finishing the draft. -/
theorem ApiOperation.prepare_value_of_url {u : Url} (h : o.url server t.parameters.path = .ok u) :
    (o.prepare server t credentials).value = (draftOf u t credentials).finish o.method t.body := by
  unfold ApiOperation.prepare
  rw [h, ← draftOf_eq]
  rfl

/-- Without one it fails as the URL does. -/
theorem ApiOperation.prepare_value_of_error {e : BuildError}
    (h : o.url server t.parameters.path = .error e) :
    (o.prepare server t credentials).value = .error e := by
  unfold ApiOperation.prepare
  rw [h]
  rfl

/-- Preparing fails for want of a server exactly when the base is blank. -/
theorem ApiOperation.prepare_value_eq_missingServer {id : String} :
    (o.prepare server t credentials).value = .error (.missingServer id) ↔
      isBlankText (o.base server) = true ∧ id = o.id := by
  have hurl : o.url server t.parameters.path = .error (.missingServer id) ↔
      isBlankText (o.base server) = true ∧ id = o.id := url_eq_missingServer
  rw [← hurl]
  cases hurl : o.url server t.parameters.path with
  | error e =>
    rw [prepare_value_of_error hurl]
    exact ⟨fun h => by cases h; rfl, fun h => by cases h; rfl⟩
  | ok u =>
    rw [prepare_value_of_url hurl]
    exact ⟨fun h => absurd h (RequestDraft.finish_ne_missingServer _ _ _ _), nofun⟩

/-- A request for an operation is that of the operation, if it is found. -/
theorem prepareOperation_value :
    (prepareOperation doc server id t credentials).value
      = match (doc.operation? id).value with
        | none => .error (.unknownOperation id)
        | some o => (o.prepare server t credentials).value := by
  show Warned.value (match (doc.operation? id).value with
    | none => return .error (.unknownOperation id)
    | some o => o.prepare server t credentials) = _
  cases (doc.operation? id).value <;> rfl

theorem prepareOperation_value_of_operation (h : (doc.operation? id).value = some o) :
    (prepareOperation doc server id t credentials).value
      = (o.prepare server t credentials).value := by
  rw [prepareOperation_value, h]

/-- **A BUILT REQUEST** is the finished draft of an operation that was found. -/
theorem prepareOperation_value_eq_ok {r : HttpRequest}
    (h : (prepareOperation doc server id t credentials).value = .ok r) :
    ∃ o u, (doc.operation? id).value = some o ∧ o.url server t.parameters.path = .ok u ∧
      (draftOf u t credentials).finish o.method t.body = .ok r := by
  cases ho : (doc.operation? id).value with
  | none =>
    rw [prepareOperation_value, ho] at h
    cases h
  | some o =>
    rw [prepareOperation_value_of_operation ho] at h
    cases hurl : o.url server t.parameters.path with
    | error e =>
      rw [ApiOperation.prepare_value_of_error hurl] at h
      cases h
    | ok u =>
      rw [ApiOperation.prepare_value_of_url hurl] at h
      exact ⟨o, u, rfl, hurl, h⟩

/-- **A FREE REQUEST** has no URL, or with all values it is one that cannot be read, or else the
draft of that URL, without credentials, is finished with the method. -/
theorem prepareFree_cases (t : Template) : prepareFree t = .error .missingUrl ∨
    ∃ given text, t.url = some given ∧ Url.fillPath t.parameters.path false given = .ok text ∧
      ((∃ e, prepareFree t = .error (.badUrl text e)) ∨
        ∃ u, Url.ofText text = .ok u ∧ prepareFree t =
          (freeMethod t).bind fun method => (draftOf u t .empty).finish method t.body) := by
  have hdraft (u : Url) : (RequestDraft.ofUrl u).addParameters t.parameters
      = draftOf u t .empty := draftOf_eq u t .empty
  unfold prepareFree
  cases hgiven : t.url.filter fun u => !isBlankText u with
  | none => exact .inl rfl
  | some given =>
    obtain ⟨text, htext⟩ := Url.exists_fillPath t.parameters.path given
    refine .inr ⟨given, text, (Option.filter_eq_some_iff.mp hgiven).1, htext, ?_⟩
    simp only [htext]
    cases hread : Url.ofText text with
    | error e => exact .inl ⟨e, by simp [readUrl, hread, Except.mapError, bind, Except.bind]⟩
    | ok u =>
      refine .inr ⟨u, rfl, ?_⟩
      simp [readUrl, hread, Except.mapError, bind, Except.bind, hdraft]

/-- A free request that is built has a URL, whose placeholders may stay without a value. -/
theorem exists_url_of_prepareFree {r : HttpRequest} (h : prepareFree t = .ok r) :
    ∃ given text u method, t.url = some given ∧
      Url.fillPath t.parameters.path false given = .ok text ∧ Url.ofText text = .ok u ∧
      (draftOf u t .empty).finish method t.body = .ok r := by
  rcases prepareFree_cases t with
    hnone | ⟨given, text, hurl, hfill, ⟨e, hbad⟩ | ⟨u, hread, hfinish⟩⟩
  · cases hnone.symm.trans h
  · cases hbad.symm.trans h
  · replace h := hfinish.symm.trans h
    cases hmethod : freeMethod t with
    | error e =>
      rw [hmethod] at h
      cases h
    | ok method =>
      rw [hmethod] at h
      exact ⟨given, text, u, method, hurl, hfill, hread, h⟩

/-- It is a finished draft without credentials. -/
theorem prepareFree_eq_ok {r : HttpRequest} (h : prepareFree t = .ok r) :
    ∃ u method, (draftOf u t .empty).finish method t.body = .ok r := by
  obtain ⟨given, text, u, method, -, -, -, hfinish⟩ := exists_url_of_prepareFree h
  exact ⟨u, method, hfinish⟩

end Request

end ApiPlaybook
