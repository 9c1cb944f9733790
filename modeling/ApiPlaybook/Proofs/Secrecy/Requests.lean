/-
  ApiPlaybook.Proofs.Secrecy.Requests
  ───────────────────────────────────
  **WHERE A REQUEST SHOWS A CREDENTIAL.**

  A credential is carried in one header, or as a parameter in the query
  (`SecurityScheme.header?`).  Two requests that are made with credentials of
  different values therefore agree but for those headers, as long as no such
  credential goes into the query (`prepare_alike`):

      their method, URL and body are the same, and so is every header that
      carries none of these credentials.

  Rules that read no such header set the same variables from both
  (`Responses.extract_congr`).  The headers that may differ are given as a
  predicate on their names in lower case.
-/
import Mathlib.Data.List.Forall2
import Mathlib.Data.Option.Basic
import ApiPlaybook.Run.Stage

namespace ApiPlaybook

/-! ## §1. Maps with the same names. -/

section Options

variable {α β γ δ : Type} {R : α → β → Prop} {S : γ → δ → Prop} {o : Option α} {o' : Option β}

/-- Related options are both there or both not. -/
theorem isSome_eq_of_rel (h : Option.Rel R o o') : o.isSome = o'.isSome := by cases h <;> rfl

/-- Where related values are equal, so are the options. -/
theorem eq_of_rel {R : α → α → Prop} {o o' : Option α} (h : Option.Rel R o o')
    (hr : ∀ v v', R v v' → v = v') : o = o' := by
  cases h with
  | none => rfl
  | some hv => exact congrArg some (hr _ _ hv)

/-- Functions that keep a relation keep it for options. -/
theorem rel_map {f : α → γ} {g : β → δ} (h : Option.Rel R o o')
    (hr : ∀ v v', R v v' → S (f v) (g v')) : Option.Rel S (o.map f) (o'.map g) := by
  cases h with
  | none => exact .none
  | some hv => exact .some (hr _ _ hv)

theorem rel_refl {R : α → α → Prop} (h : ∀ v, R v v) : Option.Rel R o o := by
  cases o with
  | none => exact .none
  | some v => exact .some (h v)

/-- Where all values are related it only matters whether there is one. -/
theorem rel_of_isSome_eq (hr : ∀ v v', R v v') :
    ∀ {o : Option α} {o' : Option β}, o.isSome = o'.isSome → Option.Rel R o o'
  | none, none, _ => .none
  | some v, some v', _ => .some (hr v v')

/-- The first of two options, on both sides. -/
theorem rel_or {p : Option α} {p' : Option β} (h : Option.Rel R o o') (hp : Option.Rel R p p') :
    Option.Rel R (o.or p) (o'.or p') := by
  cases h with
  | none => exact hp
  | some hv => exact .some hv

end Options

section Maps

variable {α β : Type} {R : String → α → β → Prop}

/-- Entries of one name whose values are related. -/
def EntryAlike (R : String → α → β → Prop) (e : String × α) (e' : String × β) : Prop :=
  e.1 = e'.1 ∧ R e.1 e.2 e'.2

/-- An entry that is put on both sides. -/
theorem insertEntry_alike {entries : List (String × α)} {entries' : List (String × β)}
    (h : List.Forall₂ (EntryAlike R) entries entries') {name : String} {v : α} {v' : β}
    (hv : R name v v') :
    List.Forall₂ (EntryAlike R) (insertEntry name v entries) (insertEntry name v' entries') := by
  induction h with
  | nil => exact .cons ⟨rfl, hv⟩ .nil
  | @cons e e' rest rest' he hrest ih =>
    obtain ⟨n, w⟩ := e
    obtain ⟨n', w'⟩ := e'
    obtain ⟨rfl, hw⟩ : n = n' ∧ R n w w' := he
    unfold insertEntry
    split
    · exact .cons ⟨rfl, hv⟩ (.cons ⟨rfl, hw⟩ hrest)
    · split
      · exact .cons ⟨rfl, hv⟩ hrest
      · exact .cons ⟨rfl, hw⟩ ih

/-- What is found under a name on both sides. -/
theorem findEntry_alike {entries : List (String × α)} {entries' : List (String × β)}
    (h : List.Forall₂ (EntryAlike R) entries entries') (name : String) :
    Option.Rel (R name) (findEntry name entries) (findEntry name entries') := by
  induction h with
  | nil => exact .none
  | @cons e e' rest rest' he hrest ih =>
    obtain ⟨n, w⟩ := e
    obtain ⟨n', w'⟩ := e'
    obtain ⟨rfl, hw⟩ : n = n' ∧ R n w w' := he
    unfold findEntry
    split
    · next hn => exact hn ▸ .some hw
    · exact ih

/-- The first entry whose name passes, on both sides. -/
theorem find?_alike {entries : List (String × α)} {entries' : List (String × β)}
    (h : List.Forall₂ (EntryAlike R) entries entries') (p : String → Bool) :
    Option.Rel (fun e e' => p e.1 = true ∧ EntryAlike R e e') (entries.find? fun e => p e.1)
      (entries'.find? fun e => p e.1) := by
  induction h with
  | nil => exact .none
  | @cons e e' rest rest' he hrest ih =>
    rw [List.find?_cons, List.find?_cons, ← he.1]
    cases hp : p e.1 with
    | true => exact .some ⟨hp, he⟩
    | false => exact ih

namespace NameMap

/-- Maps with the same names and related values. -/
def Alike (R : String → α → β → Prop) (m : NameMap α) (m' : NameMap β) : Prop :=
  List.Forall₂ (EntryAlike R) m.entries m'.entries

theorem Alike.empty : Alike R .empty .empty := .nil

theorem Alike.refl {R : String → α → α → Prop} (h : ∀ name v, R name v v) (m : NameMap α) :
    m.Alike R m :=
  List.forall₂_same.mpr fun e _ => ⟨rfl, h e.1 e.2⟩

/-- A name that is set on both sides. -/
theorem Alike.insert {m : NameMap α} {m' : NameMap β} (h : m.Alike R m') {name : String} {v : α}
    {v' : β} (hv : R name v v') : (m.insert name v).Alike R (m'.insert name v') :=
  insertEntry_alike h hv

theorem Alike.get? {m : NameMap α} {m' : NameMap β} (h : m.Alike R m') (name : String) :
    Option.Rel (R name) (m.get? name) (m'.get? name) :=
  findEntry_alike h name

theorem Alike.filterNames {m : NameMap α} {m' : NameMap β} (h : m.Alike R m')
    (p : String → Bool) : (m.filterNames p).Alike R (m'.filterNames p) :=
  List.rel_filter (fun _ _ he => Eq.to_iff (congrArg (p · = true) he.1)) h

theorem Alike.ofList {pairs : List (String × α)} {pairs' : List (String × β)}
    (h : List.Forall₂ (EntryAlike R) pairs pairs') :
    (ofList pairs).Alike R (NameMap.ofList pairs') := by
  refine List.rel_foldl (P := Alike R) (fun m m' hm p p' hp => ?_) .empty h
  rw [← hp.1]
  exact hm.insert hp.2

end NameMap

end Maps

/-! ## §2. Headers. -/

section Headers

variable {carrier : String → Prop}

/-- Headers that agree but for those that carry a credential. -/
def HeadersAlike (carrier : String → Prop) (h h' : NameMap String) : Prop :=
  h.Alike (fun name v v' => carrier (lowerAscii name) ∨ v = v') h'

theorem HeadersAlike.refl (h : NameMap String) : HeadersAlike carrier h h :=
  NameMap.Alike.refl (fun _ _ => .inr rfl) h

/-- The header for cookies, as it is written. -/
theorem lowerAscii_Cookie : lowerAscii "Cookie" = "cookie" := by decide +kernel

theorem lowerAscii_cookie : lowerAscii "cookie" = "cookie" := by decide +kernel

/-- Spellings of a name have one lower case. -/
theorem lowerAscii_eq {s t : String} (h : sameIgnoringCase s t = true) :
    lowerAscii s = lowerAscii t := eq_of_beq h

/-- A header that carries no credential is found with the same value. -/
theorem HeadersAlike.findHeader {h h' : NameMap String} (ha : HeadersAlike carrier h h')
    (name : String) :
    Option.Rel (fun v v' => carrier (lowerAscii name) ∨ v = v') (findHeader h name)
      (ApiPlaybook.findHeader h' name) := by
  refine rel_map (find?_alike ha fun n => sameIgnoringCase n name) fun e e' he => ?_
  obtain ⟨hname, -, hv⟩ := he
  rwa [lowerAscii_eq hname] at hv

/-- A header that carries nothing is the same. -/
theorem HeadersAlike.findHeader_eq {h h' : NameMap String} (ha : HeadersAlike carrier h h')
    {name : String} (hn : ¬ carrier (lowerAscii name)) :
    ApiPlaybook.findHeader h name = ApiPlaybook.findHeader h' name :=
  eq_of_rel (ha.findHeader name) fun _ _ hv => hv.resolve_left hn

end Headers

/-! ## §3. Credentials on requests. -/

/-- The header in which a credential is carried; none for the one place that is no
header, the query. -/
def SecurityScheme.header? (scheme : SecurityScheme) (credential : String) : Option String :=
  match scheme.kind with
  | .apiKey =>
    match scheme.location.getD .header with
    | .header => some (scheme.name.getD credential)
    | .query => none
    | .cookie => some "Cookie"
  | .basic | .bearer | .oauth2 | .openIdConnect => some "Authorization"

/-- A credential with another value: a header carries it, whatever its scheme. -/
structure ResolvedCredential.Hidden (carrier : String → Prop) (c : ResolvedCredential) : Prop where
  carried : ∀ scheme, c.scheme = some scheme →
    ∃ header, scheme.header? c.key.credential = some header ∧ carrier (lowerAscii header)

/-- Credentials that have the same value or are hidden. -/
structure ResolvedCredential.Alike (carrier : String → Prop) (c c' : ResolvedCredential) :
    Prop where
  key_eq : c.key = c'.key
  scheme_eq : c.scheme = c'.scheme
  value : c.Hidden carrier ∨ c.value = c'.value

/-- Credentials for the same references. -/
def AuthResult.Alike (carrier : String → Prop) (r r' : AuthResult) : Prop :=
  NameMap.Alike (fun _ c c' => c.Alike carrier c') r r'

/-- Drafts that agree but for the headers that carry a credential, the cookies being
one of them. -/
structure RequestDraft.Alike (carrier : String → Prop) (d d' : RequestDraft) : Prop where
  url_eq : d.url = d'.url
  headers : HeadersAlike carrier d.headers d'.headers
  cookies : carrier "cookie" ∨ d.cookies = d'.cookies
  isEmpty_eq : d.cookies.isEmpty = d'.cookies.isEmpty

section Drafts

variable {carrier : String → Prop} {d d' : RequestDraft}

namespace RequestDraft.Alike

theorem refl (d : RequestDraft) : d.Alike carrier d := ⟨rfl, .refl _, .inr rfl, rfl⟩

theorem addPair (h : d.Alike carrier d') (name value : String) :
    (d.addPair name value).Alike carrier (d'.addPair name value) :=
  ⟨congrArg (·.withPair name value) h.url_eq, h.headers, h.cookies, h.isEmpty_eq⟩

/-- A header is set, to values that may differ if it carries a credential. -/
theorem setHeader (h : d.Alike carrier d') {name value value' : String}
    (hv : carrier (lowerAscii name) ∨ value = value') :
    (d.setHeader name value).Alike carrier (d'.setHeader name value') :=
  ⟨h.url_eq, h.headers.insert hv, h.cookies, h.isEmpty_eq⟩

/-- A cookie is added, whose value may differ if the header for cookies carries one. -/
theorem addCookie (h : d.Alike carrier d') (name : String) {value value' : String}
    (hv : carrier "cookie" ∨ value = value') :
    (d.addCookie name value).Alike carrier (d'.addCookie name value') := by
  refine ⟨h.url_eq, h.headers, ?_, ?_⟩
  · rcases hv with hv | rfl
    · exact .inl hv
    · exact h.cookies.imp_right fun h => congrArg (· ++ [(name, value)]) h
  · unfold RequestDraft.addCookie
    cases d.cookies <;> cases d'.cookies <;> rfl

/-- A credential goes where its scheme says, into the same header of both. -/
theorem carry (h : d.Alike carrier d') {c c' : ResolvedCredential} (hc : c.Alike carrier c')
    {scheme : SecurityScheme} (hs : c.scheme = some scheme) :
    (d.carry c scheme).Alike carrier (d'.carry c' scheme) := by
  obtain ⟨key, value, _⟩ := c
  obtain ⟨_, value', _⟩ := c'
  obtain ⟨rfl, rfl, hvalue⟩ := hc
  cases hs
  have hcarried (header : String) (hh : scheme.header? key.credential = some header) :
      carrier (lowerAscii header) ∨ value = value' := by
    refine hvalue.imp_left fun hidden => ?_
    obtain ⟨header', hheader, hcarrier⟩ := hidden.carried scheme rfl
    rw [hh] at hheader
    cases hheader
    exact hcarrier
  unfold RequestDraft.carry
  unfold SecurityScheme.header? at hcarried
  cases hk : scheme.kind with
  | apiKey =>
    cases hl : scheme.location.getD .header with
    | header =>
      simp only [hk, hl] at hcarried
      exact h.setHeader (hcarried _ rfl)
    | query =>
      -- the one place that shows what is carried, so the values have to be the same
      have hsame : value = value' := by
        refine hvalue.resolve_left fun hidden => ?_
        obtain ⟨header, hheader, -⟩ := hidden.carried scheme rfl
        simp [SecurityScheme.header?, hk, hl] at hheader
      rw [hsame]
      exact h.addPair _ _
    | cookie =>
      simp only [hk, hl] at hcarried
      have hcookie := hcarried _ rfl
      rw [lowerAscii_Cookie] at hcookie
      exact h.addCookie _ hcookie
  | basic | bearer | oauth2 | openIdConnect =>
    simp only [hk] at hcarried
    exact h.setHeader ((hcarried _ rfl).imp_right fun heq => by rw [heq])

/-- A credential that is carried by a header, or has one value. -/
theorem addCredential (h : d.Alike carrier d') (auth : String) {c c' : ResolvedCredential}
    (hc : c.Alike carrier c') :
    (d.addCredential auth c).value.Alike carrier (d'.addCredential auth c').value := by
  unfold RequestDraft.addCredential
  rw [← hc.scheme_eq]
  cases hs : c.scheme with
  | some scheme => exact h.carry hc hs
  | none => exact h

/-- The credentials of a request, one after another. -/
theorem addCredentials (h : d.Alike carrier d') {credentials credentials' : AuthResult}
    (hc : credentials.Alike carrier credentials') :
    (d.addCredentials credentials).value.Alike carrier (d'.addCredentials credentials').value := by
  unfold RequestDraft.addCredentials
  unfold AuthResult.Alike NameMap.Alike at hc
  generalize credentials.entries = entries at hc ⊢
  generalize credentials'.entries = entries' at hc ⊢
  -- the entries that are left; each adds one credential, so the drafts vary
  induction hc generalizing d d' with
  | nil => exact h
  | @cons e e' rest rest' he hrest ih =>
    obtain ⟨auth, c⟩ := e
    obtain ⟨auth', c'⟩ := e'
    obtain ⟨rfl, hc⟩ : auth = auth' ∧ c.Alike carrier c' := he
    exact ih (h.addCredential auth hc)

/-- The cookies become one header, which carries what they carry. -/
theorem headersWithCookies (h : d.Alike carrier d') :
    HeadersAlike carrier d.headersWithCookies d'.headersWithCookies := by
  unfold RequestDraft.headersWithCookies
  rw [← h.isEmpty_eq]
  split
  · exact h.headers
  · refine NameMap.Alike.insert (h.headers.filterNames _) ?_
    rw [lowerAscii_Cookie]
    by_cases hcarrier : carrier "cookie"
    · exact .inl hcarrier
    · have hheader := h.headers.findHeader_eq (lowerAscii_cookie ▸ hcarrier)
      exact .inr (by simp only [RequestDraft.header?, hheader, h.cookies.resolve_left hcarrier])

end RequestDraft.Alike

end Drafts

/-! ## §4. Requests. -/

/-- Requests that agree but for the headers that carry a credential. -/
structure HttpRequest.Alike (carrier : String → Prop) (r r' : HttpRequest) : Prop where
  method_eq : r.method = r'.method
  url_eq : r.url = r'.url
  headers : HeadersAlike carrier r.headers r'.headers
  body_eq : r.body = r'.body

/-- The same error, or requests that agree. -/
inductive BuiltAlike (carrier : String → Prop) :
    Except BuildError HttpRequest → Except BuildError HttpRequest → Prop where
  | error (e : BuildError) : BuiltAlike carrier (.error e) (.error e)
  | ok {r r' : HttpRequest} (h : r.Alike carrier r') : BuiltAlike carrier (.ok r) (.ok r')

section Requests

variable {carrier : String → Prop}

/-- The media type is set on both sides or on neither. -/
theorem headersWithType_alike {h h' : NameMap String} (ha : HeadersAlike carrier h h')
    (body : Option Body) :
    HeadersAlike carrier (RequestDraft.headersWithType h body)
      (RequestDraft.headersWithType h' body) := by
  cases body with
  | none => exact ha
  | some b =>
    unfold RequestDraft.headersWithType
    dsimp only
    rw [← Option.not_isSome, ← Option.not_isSome, isSome_eq_of_rel (ha.findHeader "content-type")]
    split
    · exact NameMap.Alike.insert ha (.inr rfl)
    · exact ha

/-- Drafts that are alike are finished alike, or fail with the same error. -/
theorem RequestDraft.Alike.finish {d d' : RequestDraft} (h : d.Alike carrier d') (method : String)
    (body : Option Body) : BuiltAlike carrier (d.finish method body) (d'.finish method body) := by
  unfold RequestDraft.finish
  cases body.mapM bodyText with
  | error e => exact .error e
  | ok text =>
    refine .ok ⟨rfl, ?_, headersWithType_alike h.headersWithCookies body, rfl⟩
    rw [h.url_eq]

/-- **REQUESTS AGREE BUT FOR THE CREDENTIALS**: the same values were put in place. -/
theorem prepare_alike (c : Setup) (request : Request) (template : Template)
    {credentials credentials' : AuthResult} (hc : credentials.Alike carrier credentials') :
    BuiltAlike carrier (c.prepare request template credentials).value
      (c.prepare request template credentials').value := by
  unfold Setup.prepare
  cases request.operationId with
  | none =>
    show BuiltAlike carrier (prepareFree template) (prepareFree template)
    cases prepareFree template with
    | error e => exact .error e
    | ok r => exact .ok ⟨rfl, rfl, .refl _, rfl⟩
  | some id =>
    show BuiltAlike carrier (prepareOperation c.api c.server id template credentials).value
      (prepareOperation c.api c.server id template credentials').value
    unfold prepareOperation
    dsimp only [bind]
    -- credentials play no part before the draft is there
    cases (c.api.operation? id).value with
    | none => exact .error _
    | some o =>
      dsimp only
      unfold ApiOperation.prepare
      cases o.url c.server template.parameters.path with
      | error e => exact .error e
      | ok url =>
        let draft := (RequestDraft.ofUrl url).addParameters template.parameters
        have hdraft : draft.Alike carrier draft := .refl draft
        exact (hdraft.addCredentials hc).finish o.method template.body

end Requests

/-! ## §5. Rules that read no credential. -/

/-- The rule reads no header of a request that carries a credential; cookies are read
from theirs. -/
structure ExtractionRule.Spares (carrier : String → Prop) (rule : ExtractionRule) : Prop where
  header : rule.side = .request → rule.location = .header → ¬ carrier (lowerAscii rule.path)
  cookie : rule.side = .request → rule.location = .cookie → ¬ carrier "cookie"

/-- None of the rules reads such a header. -/
def Responses.Spare (carrier : String → Prop) (rs : Responses) : Prop :=
  ∀ rules ∈ rs.values, ∀ rule ∈ rules.assignments.values, rule.Spares carrier

section Rules

variable {carrier : String → Prop} {r r' : HttpRequest}

/-- A rule that spares these headers finds the same. -/
theorem ExtractionRule.find_congr (h : r.Alike carrier r') {rule : ExtractionRule}
    (hr : rule.Spares carrier) (response : HttpResponse) :
    rule.find r response = rule.find r' response := by
  unfold ExtractionRule.find
  cases hl : rule.location <;> cases hs : rule.side
  case body.request => rw [h.body_eq]
  case header.request =>
    exact congrArg (textAt rule) (h.headers.findHeader_eq (hr.header hs hl))
  case cookie.request =>
    have hcookie := h.headers.findHeader_eq (lowerAscii_cookie ▸ hr.cookie hs hl)
    exact congrArg (fun o => textAt rule (o.bind fun text => sentCookie? text rule.path)) hcookie
  case query.request | query.response => rw [h.url_eq]
  all_goals rfl

theorem extractInto_congr (h : r.Alike carrier r') (response : HttpResponse)
    {rules : List (String × ExtractionRule)} (hr : ∀ e ∈ rules, e.2.Spares carrier)
    (scope : Scope) : extractInto r response scope rules = extractInto r' response scope rules := by
  induction rules generalizing scope with
  | nil => rfl
  | cons e rest ih =>
    obtain ⟨name, rule⟩ := e
    obtain ⟨hrule, hrest⟩ := List.forall_mem_cons.mp hr
    have hfind : rule.extract r response = rule.extract r' response := by
      unfold ExtractionRule.extract
      rw [ExtractionRule.find_congr h hrule]
    unfold extractInto
    rw [hfind]
    cases rule.extract r' response with
    | ok value => exact ih hrest (scope.assign name value)
    | error fault => rfl

/-- **RULES THAT READ NO CREDENTIAL SET THE SAME VARIABLES.** -/
theorem Responses.extract_congr (h : r.Alike carrier r') {rs : Responses} (hr : rs.Spare carrier)
    (id : String) (reply : Reply) : rs.extract id r reply = rs.extract id r' reply := by
  cases reply with
  | mock => rfl
  | response response =>
    unfold Responses.extract
    dsimp only
    cases hs : rs.select? response.status with
    | none => rfl
    | some rules =>
      refine extractInto_congr h response ?_ _
      intro e he
      exact hr rules (Responses.select?_mem hs) e.2 (List.mem_map_of_mem he)

end Rules

end ApiPlaybook
