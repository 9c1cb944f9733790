/-
  ApiPlaybook.Proofs.Extraction.Cookies
  ─────────────────────────────────────
  **COOKIES ARE READ BACK.**

  A request is built from a template and credentials, and rules look into it
  later.  Builder and rules share no code:

      the builder   writes `name=value` with "; " between them, behind the value
                    of a header for cookies that the template sets itself,
      a rule        cuts the header at semicolons, each part at its first equals
                    sign, and trims both sides.

  Where no cookie has a separator in it or blanks around it, the header of the
  request holds the cookies of the template's own header, of its parameters and
  of the credentials, in this order, and a rule finds the first one of its name
  (`cookies_read_back`).
-/
import ApiPlaybook.Extraction
import ApiPlaybook.Proofs.Preparation.HeaderNames

namespace ApiPlaybook

/-! ## §1. The first of a name. -/

/-- A rule finds the first of the pairs that has its name, and nothing only where there is none. -/
structure ExtractionRule.FindsFirst (rule : ExtractionRule) (request : HttpRequest)
    (response : HttpResponse) (pairs : List (String × String)) : Prop where
  first : ∀ before value after, pairs = before ++ (rule.path, value) :: after →
    (∀ p ∈ before, p.1 ≠ rule.path) → rule.extract request response = .ok (.string value)
  nothing : rule.extract request response
      = .error (.nothingThere rule.location rule.path rule.side) ↔ ∀ p ∈ pairs, p.1 ≠ rule.path

/-- Without a pattern a rule gives what it finds. -/
theorem ExtractionRule.extract_of_find {rule : ExtractionRule} {request : HttpRequest}
    {response : HttpResponse} (hpattern : rule.pattern = none) :
    rule.extract request response = rule.find request response := by
  unfold ExtractionRule.extract
  rw [hpattern]
  cases rule.find request response <;> rfl

/-- A rule that looks its name up among pairs gives the first of that name. -/
theorem ExtractionRule.findsFirst_of_find {rule : ExtractionRule} {request : HttpRequest}
    {response : HttpResponse} {pairs : List (String × String)} (hpattern : rule.pattern = none)
    (h : rule.find request response
      = textAt rule ((pairs.find? (·.1 == rule.path)).map (·.2))) :
    rule.FindsFirst request response pairs := by
  rw [← extract_of_find hpattern] at h
  constructor
  · intro before value after hpairs hbefore
    -- none of the pairs before it has the name
    have hnone : before.find? (·.1 == rule.path) = none := by
      rw [List.find?_eq_none]
      intro p hp
      simpa using hbefore p hp
    have hfound : ((rule.path, value) :: after).find? (·.1 == rule.path)
        = some (rule.path, value) := List.find?_cons_of_pos (beq_self_eq_true _)
    rw [h, hpairs, List.find?_append, hnone, hfound]
    rfl
  · rw [h]
    cases hfound : pairs.find? (·.1 == rule.path) with
    | none =>
      refine ⟨fun _ p hp => ?_, fun _ => rfl⟩
      simpa using List.find?_eq_none.mp hfound p hp
    | some p =>
      refine ⟨nofun, fun hnot => ?_⟩
      have hname : p.1 = rule.path := by simpa using List.find?_some hfound
      exact absurd hname (hnot p (List.mem_of_find?_eq_some hfound))

/-! ## §2. The cookies of a header. -/

/-- The cookie that a part of a header is, if there is an equals sign in it. -/
def cookieOf? (part : List Char) : Option (String × String) :=
  (splitFirst '=' part).map fun (name, value) =>
    (trimBlanks (String.ofList name), trimBlanks (String.ofList value))

/-- The cookies that the value of a header holds. -/
def cookiesIn (header : String) : List (String × String) :=
  (splitAll ';' header.toList).filterMap cookieOf?

/-- The cookies that a request sends. -/
def HttpRequest.cookies (r : HttpRequest) : List (String × String) :=
  (r.header? "cookie").elim [] cookiesIn

/-- A part of the header has the value of a name if it is a cookie of that name. -/
theorem cookieValue?_eq (name : String) (part : List Char) :
    cookieValue? name part
      = ((cookieOf? part).filter fun c => c.1 == name).map (·.2) := by
  unfold cookieValue? cookieOf?
  cases splitFirst '=' part with
  | none => rfl
  | some halves =>
    obtain ⟨left, right⟩ := halves
    by_cases h : trimBlanks (String.ofList left) = name
    · simp [h]
    · simp [h]

/-- The first part that is a cookie of that name counts. -/
theorem findSome?_cookieValue? (name : String) (parts : List (List Char)) :
    parts.findSome? (cookieValue? name)
      = ((parts.filterMap cookieOf?).find? (·.1 == name)).map (·.2) := by
  induction parts with
  | nil => rfl
  | cons part rest ih =>
    rw [List.findSome?_cons, cookieValue?_eq, ih, List.filterMap_cons]
    cases cookieOf? part with
    | none => rfl
    | some c =>
      by_cases h : (c.1 == name) = true
      · simp [Option.filter, h]
      · simp [Option.filter, h]

/-- The cookie that is found is the first of its name. -/
theorem sentCookie?_eq (header name : String) :
    sentCookie? header name = ((cookiesIn header).find? (·.1 == name)).map (·.2) :=
  findSome?_cookieValue? name _

/-- A rule for cookies looks at those that the request sends. -/
theorem ExtractionRule.find_cookie {rule : ExtractionRule} (hside : rule.side = .request)
    (hlocation : rule.location = .cookie) (request : HttpRequest) (response : HttpResponse) :
    rule.find request response
      = textAt rule ((request.cookies.find? (·.1 == rule.path)).map (·.2)) := by
  unfold ExtractionRule.find HttpRequest.cookies
  rw [hside, hlocation]
  cases request.header? "cookie" with
  | none => rfl
  | some header =>
    show textAt rule (sentCookie? header rule.path) = _
    rw [sentCookie?_eq]
    rfl

/-! ## §3. Joining. -/

/-- A blank in front is trimmed away. -/
theorem trimBlanks_blank (cs : List Char) :
    trimBlanks (String.ofList (' ' :: cs)) = trimBlanks (String.ofList cs) := by
  have hblank : isBlank ' ' = true := by decide
  unfold trimBlanks trimStart
  rw [String.toList_ofList, String.toList_ofList, List.dropWhile_cons, if_pos hblank]

theorem cookieOf?_blank (part : List Char) : cookieOf? (' ' :: part) = cookieOf? part := by
  have hother : ¬ ' ' = '=' := by decide
  unfold cookieOf?
  rw [splitFirst, if_neg hother]
  cases splitFirst '=' part with
  | none => rfl
  | some halves => exact congrArg some (Prod.ext (trimBlanks_blank halves.1) rfl)

theorem filterMap_cookieOf?_blank (cs : List Char) :
    (splitAll ';' (' ' :: cs)).filterMap cookieOf? = (splitAll ';' cs).filterMap cookieOf? := by
  have hother : ¬ ' ' = ';' := by decide
  rw [splitAll, if_neg hother]
  cases hparts : splitAll ';' cs with
  | nil => exact absurd hparts (Url.splitAll_ne_nil _ _)
  | cons part parts =>
    show (_ :: _).filterMap cookieOf? = _
    rw [List.filterMap_cons, List.filterMap_cons, cookieOf?_blank]

/-- Two values with "; " between them hold the cookies of both, whatever they are. -/
theorem cookiesIn_append (a b : String) : cookiesIn (a ++ "; " ++ b) = cookiesIn a ++ cookiesIn b := by
  have htext : (a ++ "; " ++ b).toList = a.toList ++ ';' :: ' ' :: b.toList := by simp
  unfold cookiesIn
  rw [htext, Url.splitAll_append, List.filterMap_append, filterMap_cookieOf?_blank]

/-- A cookie that a header can hold: no separator stands in it, and no blanks around it. -/
structure IsPlainCookie (c : String × String) : Prop where
  name_semicolon : ';' ∉ c.1.toList
  name_equals : '=' ∉ c.1.toList
  name_trimmed : trimBlanks c.1 = c.1
  value_semicolon : ';' ∉ c.2.toList
  value_trimmed : trimBlanks c.2 = c.2

/-- A plain cookie is read back from how it is written. -/
theorem IsPlainCookie.cookiesIn_text {c : String × String} (h : IsPlainCookie c) :
    cookiesIn (c.1 ++ "=" ++ c.2) = [c] := by
  have htext : (c.1 ++ "=" ++ c.2).toList = c.1.toList ++ '=' :: c.2.toList := by simp
  have hwhole : ';' ∉ c.1.toList ++ '=' :: c.2.toList := by
    simp [h.name_semicolon, h.value_semicolon]
  unfold cookiesIn
  rw [htext, Url.splitAll_of_not_mem hwhole, List.filterMap_cons, cookieOf?,
    splitFirst_append _ h.name_equals]
  simp [h.name_trimmed, h.value_trimmed]

/-- Cookies that were joined are read back. -/
theorem cookiesIn_cookiesText {cookies : List (String × String)}
    (h : ∀ c ∈ cookies, IsPlainCookie c) (hsome : cookies ≠ []) :
    cookiesIn (RequestDraft.cookiesText cookies) = cookies := by
  induction cookies with
  | nil => exact absurd rfl hsome
  | cons c rest ih =>
    have hc : IsPlainCookie c := h c List.mem_cons_self
    unfold RequestDraft.cookiesText at ih ⊢
    rw [List.map_cons]
    by_cases hrest : rest = []
    · rw [hrest, List.map_nil, String.intercalate_singleton]
      exact hc.cookiesIn_text
    · rw [String.intercalate_cons_of_ne_nil (by simpa using hrest), cookiesIn_append,
        hc.cookiesIn_text, ih (fun c' hc' => h c' (List.mem_cons_of_mem _ hc')) hrest]
      rfl

/-! ## §4. The header for cookies. -/

/-- A header that is set once, whatever the case, is found. -/
theorem findHeader_ofList_of_once {before after : List (String × String)} {name asked value : String}
    (hname : sameIgnoringCase name asked = true)
    (hothers : ∀ p ∈ before ++ after, sameIgnoringCase p.1 asked = false) :
    findHeader (.ofList (before ++ (name, value) :: after)) asked = some value := by
  have hother : ∀ p ∈ before ++ after, ¬ sameIgnoringCase p.1 name = true := by
    intro p hp hs
    have hsame : sameIgnoringCase p.1 asked = true := RequestDraft.same_trans hs hname
    rw [hothers p hp] at hsame
    cases hsame
  rw [← findHeader_of_same _ hname]
  apply findHeader_ofList
  · intro p hp heq
    apply hother p (List.mem_append_right _ hp)
    rw [heq]
    exact sameIgnoringCase_refl name
  · intro p hp hs
    exact absurd hs (hother p hp)

/-- The type of the body is no cookie. -/
theorem RequestDraft.findHeader_cookie_headersWithType (headers : NameMap String)
    (body : Option Body) :
    findHeader (headersWithType headers body) "cookie" = findHeader headers "cookie" := by
  have hother : sameIgnoringCase "Content-Type" "cookie" = false := by decide +kernel
  cases body with
  | none => rfl
  | some b =>
    unfold headersWithType
    dsimp only
    split
    · exact findHeader_insert headers b.mediaType hother
    · rfl

/-- **COOKIES STAND BEHIND** those of the header that is there; none is dropped. -/
theorem RequestDraft.cookies_of_finish {d : RequestDraft} {method : String} {body : Option Body}
    {r : HttpRequest} (hr : d.finish method body = .ok r) (h : ∀ c ∈ d.cookies, IsPlainCookie c) :
    r.cookies = (d.header? "cookie").elim [] cookiesIn ++ d.cookies := by
  have hlower : sameIgnoringCase "cookie" "cookie" = true := sameIgnoringCase_refl _
  unfold HttpRequest.cookies HttpRequest.header?
  rw [(finish_eq_ok hr).2, findHeader_cookie_headersWithType]
  by_cases hnone : d.cookies = []
  · -- then the headers are left as they are
    have hheaders : d.headersWithCookies = d.headers := by
      unfold headersWithCookies
      rw [hnone]
      rfl
    rw [hheaders, hnone, List.append_nil]
    rfl
  · rw [findHeader_cookie hnone hlower]
    cases d.header? "cookie" with
    | none => exact cookiesIn_cookiesText h hnone
    | some earlier =>
      show cookiesIn (earlier ++ "; " ++ cookiesText d.cookies) = cookiesIn earlier ++ d.cookies
      rw [cookiesIn_append, cookiesIn_cookiesText h hnone]

/-! ## §5. The cookies of a request. -/

/-- The cookies in the header for them that the template sets itself. -/
def Template.headerCookies (t : Template) : List (String × String) :=
  (t.parameters.header.entries.filter fun e => sameIgnoringCase e.1 "cookie").flatMap
    fun e => cookiesIn e.2.inlineText

/-- The cookies among the parameters of a template. -/
def Template.cookies (t : Template) : List (String × String) :=
  t.parameters.cookie.entries.map fun e => (e.1, e.2.inlineText)

/-- The cookies among credentials, in the order of their references. -/
def AuthResult.cookies (credentials : AuthResult) : List (String × String) :=
  credentials.entries.filterMap fun e => e.2.addition?.bind (·.cookie?)

/-- The cookies of a request, each of them told apart from the others by the header that holds
them all. -/
structure CookiesApart (t : Template) (credentials : AuthResult) : Prop where
  plain : ∀ c ∈ t.cookies ++ credentials.cookies, IsPlainCookie c
  /-- The template sets the header for cookies at most once, in whatever case. -/
  once : ∀ e ∈ t.parameters.header.entries, ∀ e' ∈ t.parameters.header.entries,
    sameIgnoringCase e.1 "cookie" = true → sameIgnoringCase e'.1 "cookie" = true → e = e'
  /-- No credential sets it. -/
  credential : ∀ e ∈ credentials.entries, ∀ name, e.2.headerName? = some name →
    sameIgnoringCase name "cookie" = false

/-- A request that was built, for an operation or a free one. -/
inductive IsBuilt (t : Template) : AuthResult → HttpRequest → Prop
  | operation {doc : ApiDocument} {server id : String} {credentials : AuthResult} {r : HttpRequest}
    (h : (prepareOperation doc server id t credentials).value = .ok r) : IsBuilt t credentials r
  | free {r : HttpRequest} (h : prepareFree t = .ok r) : IsBuilt t .empty r

section Cookies

variable {t : Template} {credentials : AuthResult}

/-- The cookies of a request are those of its template and then those of its credentials. -/
theorem cookiesOf_eq : cookiesOf t credentials = t.cookies ++ credentials.cookies := by
  unfold cookiesOf Template.cookies AuthResult.cookies Parameters.additions AuthResult.additions
  rw [List.filterMap_append, List.filterMap_append, List.filterMap_append,
    List.filterMap_filterMap]
  simp [List.filterMap_map, Addition.cookie?]

/-- A request that was built was finished from its draft. -/
theorem IsBuilt.finish {r : HttpRequest} (h : IsBuilt t credentials r) :
    ∃ url method, (draftOf url t credentials).finish method t.body = .ok r := by
  cases h with
  | operation h =>
    obtain ⟨o, url, -, -, hfinish⟩ := prepareOperation_value_eq_ok h
    exact ⟨url, o.method, hfinish⟩
  | free h => exact prepareFree_eq_ok h

/-- The header for cookies is the only one of the template, and no credential sets one. -/
theorem CookiesApart.around (h : CookiesApart t credentials) {e : String × Json}
    (he : e ∈ t.parameters.header.entries) (hcookie : sameIgnoringCase e.1 "cookie" = true) :
    ∃ before after, t.parameters.header.entries = before ++ e :: after ∧
      ∀ e' ∈ before ++ after, sameIgnoringCase e'.1 "cookie" = false := by
  obtain ⟨before, after, hentries⟩ := List.append_of_mem he
  refine ⟨before, after, hentries, fun e' he' => ?_⟩
  cases hs : sameIgnoringCase e'.1 "cookie" with
  | false => rfl
  | true =>
    have hmem : e' ∈ t.parameters.header.entries := by
      rw [hentries]
      exact (List.mem_append.mp he').elim (List.mem_append_left _) fun he' =>
        List.mem_append_right _ (.tail _ he')
    have heq : e' = e := h.once e' hmem e he hs hcookie
    -- but the names of a map differ
    have horder := t.parameters.header.inOrder
    rw [hentries] at horder
    obtain ⟨-, hbehind, hfront⟩ := List.pairwise_append.mp horder
    rw [heq] at he'
    rcases List.mem_append.mp he' with he' | he'
    · exact absurd (hfront e he' e List.mem_cons_self) (String.lt_irrefl _)
    · exact absurd ((List.pairwise_cons.mp hbehind).1 e he') (String.lt_irrefl _)

/-- No credential sets a header that is called a cookie. -/
theorem CookiesApart.headerName (h : CookiesApart t credentials) {p : String × String}
    (hp : p ∈ credentials.additions.filterMap (·.header?)) :
    sameIgnoringCase p.1 "cookie" = false := by
  rw [AuthResult.additions, List.filterMap_filterMap] at hp
  obtain ⟨e, he, hp⟩ := List.mem_filterMap.mp hp
  exact h.credential e he p.1 (congrArg (Option.map Prod.fst) hp)

/-- The template's own header for cookies is that of the draft. -/
theorem CookiesApart.findHeader_of_mem (h : CookiesApart t credentials) {e : String × Json}
    (he : e ∈ t.parameters.header.entries) (hcookie : sameIgnoringCase e.1 "cookie" = true)
    (url : Url) :
    findHeader (draftOf url t credentials).headers "cookie" = some e.2.inlineText ∧
      t.parameters.header.entries.filter (fun e => sameIgnoringCase e.1 "cookie") = [e] := by
  obtain ⟨before, after, hentries, hothers⟩ := h.around he hcookie
  have hnone {es : List (String × Json)} (hes : ∀ e' ∈ es, e' ∈ before ++ after) :
      es.filter (fun e' => sameIgnoringCase e'.1 "cookie") = [] := by
    rw [List.filter_eq_nil_iff]
    intro e' he'
    rw [hothers e' (hes e' he')]
    exact nofun
  have hheaders : (draftOf url t credentials).headers
      = .ofList (t.parameters.header.entries.map (fun e => (e.1, e.2.inlineText))
        ++ credentials.additions.filterMap (·.header?)) := by
    unfold draftOf
    rw [RequestDraft.addAll_headers, List.filterMap_append, Parameters.headers_additions]
    rfl
  -- the other headers are no spellings of it
  have hdiffer : ∀ p ∈ (before ++ after).map (fun e => (e.1, e.2.inlineText))
      ++ credentials.additions.filterMap (·.header?), sameIgnoringCase p.1 "cookie" = false := by
    intro p hp
    rcases List.mem_append.mp hp with hp | hp
    · obtain ⟨e', he', rfl⟩ := List.mem_map.mp hp
      exact hothers e' he'
    · exact h.headerName hp
  constructor
  · rw [hheaders, hentries, List.map_append, List.map_cons, List.append_assoc]
    refine findHeader_ofList_of_once hcookie fun p hp => hdiffer p ?_
    rwa [List.map_append, List.append_assoc]
  · rw [hentries, List.filter_append, List.filter_cons, if_pos hcookie,
      hnone fun _ => List.mem_append_left _, hnone fun _ => List.mem_append_right _]
    rfl

/-- Without a header of the template's own the draft has none for cookies. -/
theorem CookiesApart.findHeader_of_none (h : CookiesApart t credentials)
    (hnone : ∀ e ∈ t.parameters.header.entries, ¬ sameIgnoringCase e.1 "cookie" = true)
    (url : Url) : findHeader (draftOf url t credentials).headers "cookie" = none := by
  rw [findHeader_eq_none]
  intro n hn
  rw [mem_names_draftOf, names_headersOf] at hn
  rcases List.mem_append.mp hn with hn | hn
  · obtain ⟨e, he, rfl⟩ := List.mem_map.mp hn
    exact Bool.eq_false_iff.mpr (hnone e he)
  · obtain ⟨e, he, hname⟩ := List.mem_filterMap.mp hn
    exact h.credential e he n hname

/-- A draft has the template's own header for cookies. -/
theorem CookiesApart.header (h : CookiesApart t credentials) (url : Url) :
    ((draftOf url t credentials).header? "cookie").elim [] cookiesIn = t.headerCookies := by
  unfold RequestDraft.header? Template.headerCookies
  by_cases hsome : ∃ e ∈ t.parameters.header.entries, sameIgnoringCase e.1 "cookie" = true
  · obtain ⟨e, he, hcookie⟩ := hsome
    obtain ⟨hfound, hown⟩ := h.findHeader_of_mem he hcookie url
    rw [hfound, hown]
    exact (List.append_nil _).symm
  · have hnone : ∀ e ∈ t.parameters.header.entries, ¬ sameIgnoringCase e.1 "cookie" = true :=
      fun e he hs => hsome ⟨e, he, hs⟩
    rw [h.findHeader_of_none hnone url, List.filter_eq_nil_iff.mpr hnone]
    rfl

end Cookies

/-- **COOKIES ARE READ BACK.**  A request that was built sends the cookies of the template's own
header, then those of its parameters in the order of their names, then those of the credentials in
the order of their references, none dropped; and a rule without a pattern finds the first of them
that has its name. -/
theorem cookies_read_back {t : Template} {credentials : AuthResult} {r : HttpRequest}
    (hr : IsBuilt t credentials r) (h : CookiesApart t credentials) :
    r.cookies = t.headerCookies ++ t.cookies ++ credentials.cookies ∧
    ∀ (rule : ExtractionRule) (response : HttpResponse), rule.side = .request →
      rule.location = .cookie → rule.pattern = none →
        rule.FindsFirst r response (t.headerCookies ++ t.cookies ++ credentials.cookies) := by
  obtain ⟨url, method, hfinish⟩ := hr.finish
  have hcookies : (draftOf url t credentials).cookies = t.cookies ++ credentials.cookies :=
    (RequestDraft.addAll_cookies (.ofUrl url) _).trans cookiesOf_eq
  have hsent : r.cookies = t.headerCookies ++ t.cookies ++ credentials.cookies := by
    rw [RequestDraft.cookies_of_finish hfinish (by rw [hcookies]; exact h.plain), h.header url,
      hcookies, List.append_assoc]
  refine ⟨hsent, fun rule response hside hlocation hpattern => ?_⟩
  rw [← hsent]
  exact rule.findsFirst_of_find hpattern (rule.find_cookie hside hlocation r response)

/-- A template with cookies of its own, in a header and as a parameter. -/
def cookieTemplate : Template :=
  ⟨none, none, ⟨.empty, .ofList [("cookie", .string "a=0; ; c")], .empty,
    .ofList [("b", .string "x=y")]⟩, none⟩

def keyInCookie : AuthResult :=
  .ofList [("key", ⟨⟨"a", "static"⟩, "1", some ⟨.apiKey, some .cookie, none⟩⟩)]

def cookieRequest : Except BuildError HttpRequest :=
  (prepareOperation itemsApi "http://[::1]" "list" cookieTemplate keyInCookie).value

/-- Parts that are no cookies are passed over. -/
theorem headerCookies_cookieTemplate : cookieTemplate.headerCookies = [("a", "0")] := by
  have hname : sameIgnoringCase "cookie" "cookie" = true := sameIgnoringCase_refl _
  have hentries : cookieTemplate.parameters.header.entries
      = [("cookie", .string "a=0; ; c")] := rfl
  unfold Template.headerCookies
  rw [hentries, List.filter_cons, if_pos hname]
  rfl

/-- The template at hand keeps its cookies apart. -/
theorem cookiesApart_cookieTemplate : CookiesApart cookieTemplate keyInCookie where
  plain := by
    intro c hc
    have hcookies : cookieTemplate.cookies ++ keyInCookie.cookies = [("b", "x=y"), ("a", "1")] := rfl
    rw [hcookies] at hc
    rcases List.mem_cons.mp hc with rfl | hc
    · exact ⟨by decide, by decide, rfl, by decide, rfl⟩
    · cases List.mem_singleton.mp hc
      exact ⟨by decide, by decide, rfl, by decide, rfl⟩
  once := by
    intro e he e' he' _ _
    cases List.mem_singleton.mp he
    cases List.mem_singleton.mp he'
    rfl
  credential := by
    intro e he name hname
    cases List.mem_singleton.mp he
    cases hname

/-- All cookies are sent, and the first one of two that have one name is found. -/
theorem cookies_read_back_keyInCookie : ∃ r, cookieRequest = .ok r ∧
    r.cookies = [("a", "0"), ("b", "x=y"), ("a", "1")] ∧
    ∀ response, ExtractionRule.extract ⟨.request, .cookie, .pointer, "a", none⟩ r response
      = .ok (.string "0") := by
  obtain ⟨r, hr, -⟩ := exists_of_toOption_map cookieRequest (·.method) "GET" (by decide +kernel)
  obtain ⟨hsent, hfinds⟩ := cookies_read_back (.operation hr) cookiesApart_cookieTemplate
  rw [headerCookies_cookieTemplate] at hsent hfinds
  refine ⟨r, hr, hsent, fun response => ?_⟩
  exact (hfinds _ response rfl rfl rfl).first [] "0" _ rfl nofun

end ApiPlaybook
