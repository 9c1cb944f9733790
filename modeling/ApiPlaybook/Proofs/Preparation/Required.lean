/-
  ApiPlaybook.Proofs.Preparation.Required
  ───────────────────────────────────────
  **REQUIRED PARAMETERS WITHOUT A VALUE.**

  A warning names each required parameter of the query and of the headers that a
  draft has no value for.  It is given before the draft is finished, and finishing
  prints the URL and may set two more headers:

      the query      is read back from the URL with the same pairs, so here the
                     warnings are those of the request that is sent,
      the headers    stay, but the one for cookies and the one for the media type
                     are set late, where nobody set them before
                     (`RequestDraft.isSome_header?_of_finish`).

  So what is named is what the request does not carry, each parameter once, query
  before header and by name, and beside it the required headers that are set late
  (`noValue_prepareOperation`).  A header for cookies that is required is reported
  though the request has it (`not_namesMissing_cookieHeader`).
-/
import ApiPlaybook.Proofs.Extraction.Queries
import ApiPlaybook.Proofs.OpenApi.Parameters
import ApiPlaybook.Proofs.Preparation.HeaderNames

namespace ApiPlaybook

/-! ## §1. Headers that are set late. -/

/-- A header is found when some name is a spelling of it. -/
theorem isSome_findHeader {headers : NameMap String} {name : String} :
    (findHeader headers name).isSome = true ↔
      ∃ n ∈ headers.names, sameIgnoringCase n name = true := by
  rw [Option.isSome_iff_ne_none, ne_eq, findHeader_eq_none]
  simp

/-- Spellings of one name ask for the same. -/
theorem sameIgnoringCase_left {name other asked : String} (h : sameIgnoringCase name other = true) :
    sameIgnoringCase asked name = sameIgnoringCase asked other := by
  have hsame : lowerAscii name = lowerAscii other := eq_of_beq h
  unfold sameIgnoringCase
  rw [hsame]

/-- A header that is set is found under all its spellings. -/
theorem isSome_findHeader_insert (headers : NameMap String) (other value name : String) :
    (findHeader (headers.insert other value) name).isSome
      = (sameIgnoringCase name other || (findHeader headers name).isSome) := by
  rw [Bool.eq_iff_iff, Bool.or_eq_true, isSome_findHeader, isSome_findHeader,
    sameIgnoringCase_comm name other]
  simp only [NameMap.mem_names_insert, exists_eq_or_imp]

namespace RequestDraft

/-- The cookies of a draft set their header. -/
theorem isSome_headersWithCookies (d : RequestDraft) (name : String) :
    (findHeader d.headersWithCookies name).isSome
      = ((d.header? name).isSome || (sameIgnoringCase name "cookie" && !d.cookies.isEmpty)) := by
  unfold headersWithCookies header?
  cases d.cookies.isEmpty with
  | true => rw [if_pos rfl, Bool.not_true, Bool.and_false, Bool.or_false]
  | false =>
    rw [if_neg Bool.false_ne_true, isSome_findHeader_insert,
      sameIgnoringCase_left sameIgnoringCase_Cookie, Bool.not_false, Bool.and_true]
    cases hcookie : sameIgnoringCase name "cookie" with
    | true => rw [Bool.true_or, Bool.or_true]
    | false =>
      -- the spellings that are taken away are none of the name
      rw [Bool.false_or, Bool.or_false, findHeader_filterNames]
      intro n hn
      rw [Bool.not_eq_true', sameIgnoringCase_comm n "cookie", sameIgnoringCase_left hn,
        sameIgnoringCase_comm, hcookie]

/-- The body sets the header for its media type. -/
theorem isSome_headersWithType (headers : NameMap String) (body : Option Body) (name : String) :
    (findHeader (headersWithType headers body) name).isSome
      = ((findHeader headers name).isSome
        || (sameIgnoringCase name "content-type" && body.isSome)) := by
  cases body with
  | none => simp [headersWithType]
  | some b =>
    unfold headersWithType
    dsimp only
    by_cases hnone : (findHeader headers "content-type").isNone = true
    · rw [if_pos hnone, isSome_findHeader_insert, sameIgnoringCase_left sameIgnoringCase_ContentType,
        Bool.or_comm, Option.isSome_some, Bool.and_true]
    · rw [if_neg hnone]
      cases htype : sameIgnoringCase name "content-type" with
      | false => simp
      | true =>
        -- a type that is given is found under the name
        have hgiven : (findHeader headers "content-type").isSome = true := by
          simpa [Option.isSome_iff_ne_none] using hnone
        rw [findHeader_of_same headers htype, hgiven, Bool.true_or]

/-- Whether finishing sees to a header of that name, if nobody set it before: cookies have theirs,
and so has the media type of a body. -/
def setsLate (cookies : List (String × String)) (body : Option Body) (name : String) : Bool :=
  (sameIgnoringCase name "cookie" && !cookies.isEmpty)
    || (sameIgnoringCase name "content-type" && body.isSome)

/-- A finished draft has the headers that it had and those that are set late. -/
theorem isSome_header?_of_finish {d : RequestDraft} {method : String} {body : Option Body}
    {r : HttpRequest} (hr : d.finish method body = .ok r) (name : String) :
    (r.header? name).isSome = ((d.header? name).isSome || setsLate d.cookies body name) := by
  unfold HttpRequest.header? setsLate
  rw [(finish_eq_ok hr).2, isSome_headersWithType, isSome_headersWithCookies, Bool.or_assoc]

end RequestDraft

/-! ## §2. What is reported. -/

/-- The warning is about a required parameter without a value. -/
def Warning.isNoValue : Warning → Bool
  | .noValue .. => true
  | _ => false

namespace ApiOperation

variable {o : ApiOperation} {location : ParameterLocation}

/-- The required parameters that have no pair in a query, then those that have no header. -/
def lacking (o : ApiOperation) (pairs : List (String × String)) (hasHeader : String → Bool) :
    List ApiParameter :=
  ((o.required .query).filter fun p => !pairs.any (·.1 == p.name))
    ++ (o.required .header).filter fun p => !hasHeader p.name

/-- The required parameters of a location have that location. -/
theorem location_of_mem_required {p : ApiParameter} (h : p ∈ o.required location) :
    p.location = location := by
  have hrequired := (List.mem_filter.mp h).2
  rw [Bool.and_eq_true] at hrequired
  exact eq_of_beq hrequired.2

/-- Each required parameter that the draft lacks gets a warning. -/
theorem missingParameters_eq (o : ApiOperation) (d : RequestDraft) (location : ParameterLocation) :
    missingParameters o d location
      = ((o.required location).filter fun p => !d.hasParameter location p.name).map
        fun p => .noValue o.id p.name p.location := by
  unfold missingParameters
  refine List.map_congr_left fun p hp => ?_
  rw [location_of_mem_required (List.mem_of_mem_filter hp)]

/-- What is lacking stands in the order of the parameters, each once. -/
theorem lacking_sorted (h : o.parameters.Pairwise ApiParameter.Before)
    (pairs : List (String × String)) (hasHeader : String → Bool) :
    (o.lacking pairs hasHeader).Pairwise ApiParameter.Before := by
  refine List.pairwise_append.mpr ⟨(h.filter _).filter _, (h.filter _).filter _, ?_⟩
  -- a parameter of the query stands before one of the headers
  intro p hp q hq
  refine .inl ?_
  rw [location_of_mem_required (List.mem_of_mem_filter hp),
    location_of_mem_required (List.mem_of_mem_filter hq)]
  decide

end ApiOperation

section Warnings

variable {doc : ApiDocument} {id : String}

/-- The warnings of two steps, one after the other. -/
theorem Warned.warnings_bind {α β : Type} (w : Warned α) (f : α → Warned β) :
    (w >>= f).warnings = w.warnings ++ (f w.value).warnings :=
  rfl

theorem RequestDraft.noValue_addCredentials (d : RequestDraft) (credentials : AuthResult) :
    (d.addCredentials credentials).warnings.filter (·.isNoValue) = [] := by
  unfold addCredentials
  generalize credentials.entries = entries
  induction entries generalizing d with
  | nil => rfl
  | cons e rest ih =>
    obtain ⟨auth, c⟩ := e
    rw [List.foldlM_cons, Warned.warnings_bind, List.filter_append, ih, List.append_nil]
    show (d.addCredential auth c).warnings.filter (·.isNoValue) = []
    -- a credential without a scheme is reported as such
    unfold addCredential
    cases c.scheme <;> rfl

theorem ApiDocument.Accounts.noValue {level : ParameterLevel} {entries : List Json}
    {ps : List ApiParameter} {ws : List Warning} (h : doc.Accounts id level entries ps ws) :
    ws.filter (·.isNoValue) = [] := by
  induction h with
  | nil => rfl
  | parameter _ _ ih => exact ih
  | fault _ _ ih => exact ih

/-- Looking an operation up reports no values. -/
theorem ApiDocument.noValue_operation? (doc : ApiDocument) (id : String) :
    (doc.operation? id).warnings.filter (·.isNoValue) = [] := by
  unfold operation?
  cases doc.place? id with
  | none => rfl
  | some place =>
    have hgeneral := doc.parametersOf_accounts id .pathItem (parameterEntries place.pathItem)
    have hown := doc.parametersOf_accounts id .operation (parameterEntries place.operation)
    dsimp only
    unfold parameters
    simp only [Warned.warnings_bind, List.filter_append, hgeneral.noValue, hown.noValue]
    rfl

/-- An operation that is found has the id that was asked for, and parameters in order. -/
theorem ApiDocument.operation?_eq_some {o : ApiOperation}
    (h : (doc.operation? id).value = some o) :
    o.id = id ∧ o.parameters.Pairwise ApiParameter.Before := by
  unfold operation? at h
  cases hplace : doc.place? id with
  | none =>
    rw [hplace] at h
    cases h
  | some place =>
    rw [hplace] at h
    cases h
    exact ⟨rfl, ApiParameter.merge_sorted _⟩

variable {o : ApiOperation} {server : String} {t : Template} {credentials : AuthResult} {u : Url}

/-- The warnings name what the draft lacks. -/
theorem noValue_of_draft (ho : (doc.operation? id).value = some o)
    (hu : o.url server t.parameters.path = .ok u) :
    (prepareOperation doc server id t credentials).warnings.filter (·.isNoValue)
      = (o.lacking (draftOf u t credentials).url.queryPairs
          fun name => ((draftOf u t credentials).header? name).isSome).map
        fun p => .noValue id p.name p.location := by
  -- the warnings are those of the credentials and then those of the check
  have hprepare : (o.prepare server t credentials).warnings
      = (((RequestDraft.ofUrl u).addParameters t.parameters).addCredentials credentials).warnings
        ++ (missingParameters o (draftOf u t credentials) .query
          ++ missingParameters o (draftOf u t credentials) .header) := by
    unfold ApiOperation.prepare
    rw [hu, ← draftOf_eq]
    exact congrArg _ (List.append_nil _)
  unfold prepareOperation
  rw [Warned.warnings_bind, List.filter_append, doc.noValue_operation?, ho]
  dsimp only
  rw [hprepare, List.filter_append, RequestDraft.noValue_addCredentials, List.nil_append,
    List.nil_append, o.missingParameters_eq, o.missingParameters_eq, ← List.map_append,
    (ApiDocument.operation?_eq_some ho).1]
  -- the check warns of missing values only
  have hall (ps : List ApiParameter) :
      (ps.map fun p => Warning.noValue id p.name p.location).filter (·.isNoValue)
        = ps.map fun p => .noValue id p.name p.location := by
    simp [Warning.isNoValue]
  exact hall _

/-- The warnings about values name these parameters. -/
structure NamesMissing (ws : List Warning) (id : String) (ps : List ApiParameter) : Prop where
  named : ws.filter (·.isNoValue) = ps.map fun p => .noValue id p.name p.location
  /-- Those of the query stand before those of the headers, both by name. -/
  sorted : ps.Pairwise ApiParameter.Before
  once : (ws.filter (·.isNoValue)).Nodup

/-- Warnings in the order of parameters name each of them once. -/
theorem namesMissing_of_sorted {ws : List Warning} {ps : List ApiParameter}
    (hnamed : ws.filter (·.isNoValue) = ps.map fun p => .noValue id p.name p.location)
    (hsorted : ps.Pairwise ApiParameter.Before) : NamesMissing ws id ps := by
  refine ⟨hnamed, hsorted, ?_⟩
  rw [hnamed]
  refine List.pairwise_map.mpr (hsorted.imp fun hbefore heq => hbefore.ne ?_)
  injection heq with _ hname hlocation
  exact ⟨hlocation, hname⟩

/-! ## §3. The request that is sent. -/

/-- The request has a header of that name only since it was finished: neither the template nor a
credential sets it. -/
def setOnlyLate (t : Template) (credentials : AuthResult) (name : String) : Bool :=
  !((headersOf t credentials).any fun h => sameIgnoringCase h.1 name)
    && RequestDraft.setsLate (cookiesOf t credentials) t.body name

/-- The draft has the headers that the template and the credentials set. -/
theorem isSome_header?_draftOf (name : String) :
    ((draftOf u t credentials).header? name).isSome
      = (headersOf t credentials).any fun h => sameIgnoringCase h.1 name := by
  unfold RequestDraft.header?
  rw [Bool.eq_iff_iff, isSome_findHeader, List.any_eq_true]
  simp only [mem_names_draftOf, List.mem_map, exists_exists_and_eq_and]

section Finish

variable {method : String} {r : HttpRequest}
  (hr : (draftOf u t credentials).finish method t.body = .ok r)

include hr

/-- The request has those of the draft and those that are set late. -/
theorem isSome_header?_finish_draftOf (name : String) : (r.header? name).isSome
    = (((draftOf u t credentials).header? name).isSome
      || RequestDraft.setsLate (cookiesOf t credentials) t.body name) := by
  have hcookies : (draftOf u t credentials).cookies = cookiesOf t credentials :=
    RequestDraft.addAll_cookies (.ofUrl u) _
  rw [RequestDraft.isSome_header?_of_finish hr, hcookies]

/-- What is only set late is there in the request. -/
theorem isSome_header?_of_setOnlyLate {name : String}
    (h : setOnlyLate t credentials name = true) : (r.header? name).isSome = true := by
  rw [isSome_header?_finish_draftOf hr, (Bool.and_eq_true_iff.mp h).2, Bool.or_true]

/-- The headers of the draft are those of the request but for what is set late only. -/
theorem isSome_header?_of_draft (name : String) :
    ((draftOf u t credentials).header? name).isSome
      = ((r.header? name).isSome && !setOnlyLate t credentials name) := by
  rw [isSome_header?_finish_draftOf hr]
  unfold setOnlyLate
  rw [← isSome_header?_draftOf (u := u)]
  cases ((draftOf u t credentials).header? name).isSome <;> simp

end Finish

end Warnings

namespace ApiOperation

variable {o : ApiOperation} {pairs : List (String × String)} {hasHeader hasHeader' : String → Bool}

/-- What is lacking depends on the required headers that are there. -/
theorem lacking_congr (h : ∀ p ∈ o.required .header, hasHeader p.name = hasHeader' p.name) :
    o.lacking pairs hasHeader = o.lacking pairs hasHeader' := by
  unfold lacking
  congr 1
  exact List.filter_congr fun p hp => congrArg _ (h p hp)

/-- A required header that is not there is lacking. -/
theorem mem_lacking_of_required {p : ApiParameter} (hp : p ∈ o.required .header)
    (h : hasHeader p.name = false) : p ∈ o.lacking pairs hasHeader :=
  List.mem_append_right _ (List.mem_filter.mpr ⟨hp, by rw [h, Bool.not_false]⟩)

/-- And one that is lacking is not there. -/
theorem not_hasHeader_of_mem_lacking {p : ApiParameter} (hp : p.location = .header)
    (h : p ∈ o.lacking pairs hasHeader) : hasHeader p.name = false := by
  rcases List.mem_append.mp h with hquery | hheader
  · have hboth := hp.symm.trans (location_of_mem_required (List.mem_of_mem_filter hquery))
    cases hboth
  · simpa using (List.mem_filter.mp hheader).2

end ApiOperation

/-- **REQUIRED PARAMETERS WITHOUT A VALUE.**  The warnings of a request that was built name the
required parameters of the query without a pair in its URL, then those of the headers that it does
not have or has only since it was finished.  So they name what the request does not carry exactly
when no required header is set late only. -/
theorem noValue_prepareOperation {doc : ApiDocument} {server id : String} {t : Template}
    {credentials : AuthResult} {r : HttpRequest}
    (hr : (prepareOperation doc server id t credentials).value = .ok r) :
    ∃ o sent, (doc.operation? id).value = some o ∧ Url.ofText r.url = .ok sent ∧
      NamesMissing (prepareOperation doc server id t credentials).warnings id
        (o.lacking sent.queryPairs fun name =>
          (r.header? name).isSome && !setOnlyLate t credentials name) ∧
      (NamesMissing (prepareOperation doc server id t credentials).warnings id
          (o.lacking sent.queryPairs fun name => (r.header? name).isSome) ↔
        ∀ p ∈ o.required .header, setOnlyLate t credentials p.name = false) := by
  obtain ⟨o, u, ho, hu, hfinish⟩ := prepareOperation_value_eq_ok hr
  obtain ⟨path, -, hstart⟩ := ApiOperation.url_eq_ok hu
  obtain ⟨sent, hsent, hpairs⟩ := exists_ofText_of_finish (Url.isRead_of_ofList hstart) hfinish
  have hsorted := (ApiDocument.operation?_eq_some ho).2
  -- what the draft lacks, in terms of the request
  have hnamed : (prepareOperation doc server id t credentials).warnings.filter (·.isNoValue) = _ :=
    noValue_of_draft ho hu
  rw [queryPairs_draftOf, ← hpairs, funext (isSome_header?_of_draft hfinish)] at hnamed
  refine ⟨o, sent, ho, hsent, namesMissing_of_sorted hnamed (o.lacking_sorted hsorted _ _), ?_⟩
  constructor
  · intro h p hp
    by_contra hlate
    have hlate : setOnlyLate t credentials p.name = true := by simpa using hlate
    have hcarried := isSome_header?_of_setOnlyLate hfinish hlate
    -- its warning is there, so it would have to be lacking
    have hreported : p ∈ o.lacking sent.queryPairs fun name =>
        (r.header? name).isSome && !setOnlyLate t credentials name :=
      ApiOperation.mem_lacking_of_required hp (by rw [hlate, Bool.not_true, Bool.and_false])
    have hwarning := List.mem_map_of_mem (f := fun p => Warning.noValue id p.name p.location)
      hreported
    rw [← hnamed, h.named] at hwarning
    obtain ⟨q, hq, heq⟩ := List.mem_map.mp hwarning
    injection heq with _ hname hlocation
    have hlacking := ApiOperation.not_hasHeader_of_mem_lacking
      (hlocation.trans (ApiOperation.location_of_mem_required hp)) hq
    rw [hname, hcarried] at hlacking
    cases hlacking
  · intro h
    have hsame : o.lacking sent.queryPairs (fun name =>
          (r.header? name).isSome && !setOnlyLate t credentials name)
        = o.lacking sent.queryPairs fun name => (r.header? name).isSome :=
      ApiOperation.lacking_congr fun p hp => by rw [h p hp, Bool.not_false, Bool.and_true]
    rw [hsame] at hnamed
    exact namesMissing_of_sorted hnamed (o.lacking_sorted hsorted _ _)

/-! ## §4. Two requests. -/

/-- Without cookies and a body nothing is set late. -/
theorem setOnlyLate_of_none {t : Template} {credentials : AuthResult}
    (hcookies : cookiesOf t credentials = []) (hbody : t.body = none) (name : String) :
    setOnlyLate t credentials name = false := by
  unfold setOnlyLate RequestDraft.setsLate
  rw [hcookies, hbody]
  simp

/-- An entry for a required parameter. -/
def requiredEntry (location : ParameterLocation) (name : String) : Json :=
  .ofMembers [("name", .string name), ("in", .string location.word), ("required", .bool true)]

/-- The API with one operation, and entries for its parameters. -/
def itemsApiWith (entries : List Json) : ApiDocument :=
  ⟨.ofMembers [("paths", .ofMembers [("/items", .ofMembers [("get",
    .ofMembers [("operationId", .string "list"), ("parameters", .array entries)])])])]⟩

/-- The request for items with a query of the template and one of a key, and with a bearer. -/
def tracedRequest : Warned (Except BuildError HttpRequest) :=
  prepareOperation
    (itemsApiWith [requiredEntry .header "X-Trace", requiredEntry .header "authorization",
      requiredEntry .query "q", requiredEntry .query "b", requiredEntry .query "key"])
    "http://[::1]" "list" queryTemplate bearerAndKey

/-- Two of the five required parameters are lacking. -/
theorem noValue_prepareOperation_traced : ∃ (r : HttpRequest) (o : ApiOperation) (sent : Url),
    tracedRequest.value = .ok r ∧ Url.ofText r.url = .ok sent ∧
    NamesMissing tracedRequest.warnings "list"
      (o.lacking sent.queryPairs fun name => (r.header? name).isSome) ∧
    tracedRequest.warnings
      = [.noValue "list" "q" .query, .noValue "list" "X-Trace" .header] := by
  obtain ⟨r, hr, -⟩ := exists_of_toOption_map tracedRequest.value (·.method) "GET"
    (by decide +kernel)
  obtain ⟨o, sent, -, hsent, -, hexact⟩ := noValue_prepareOperation hr
  exact ⟨r, o, sent, hr, hsent, hexact.mpr fun p _ => setOnlyLate_of_none rfl rfl p.name,
    by decide +kernel⟩

/-- The header for cookies is required. -/
def cookieHeaderApi : ApiDocument := itemsApiWith [requiredEntry .header "Cookie"]

/-- A request whose cookie sets that header. -/
def cookieHeaderRequest : Warned (Except BuildError HttpRequest) :=
  prepareOperation cookieHeaderApi "http://[::1]" "list"
    ⟨none, none, ⟨.empty, .empty, .empty, .ofList [("sid", .string "1")]⟩, none⟩ .empty

/-- It is reported, though the request has it. -/
theorem not_namesMissing_cookieHeader : ∃ (r : HttpRequest) (sent : Url),
    cookieHeaderRequest.value = .ok r ∧ Url.ofText r.url = .ok sent ∧
    r.header? "Cookie" = some "sid=1" ∧
    cookieHeaderRequest.warnings = [.noValue "list" "Cookie" .header] ∧
    ∀ o, (cookieHeaderApi.operation? "list").value = some o →
      ¬ NamesMissing cookieHeaderRequest.warnings "list"
        (o.lacking sent.queryPairs fun name => (r.header? name).isSome) := by
  obtain ⟨r, hr, hread⟩ := exists_of_toOption_map cookieHeaderRequest.value
    (fun r => (r.header? "Cookie", (Url.ofText r.url).toOption.isSome)) (some "sid=1", true)
    (by decide +kernel)
  obtain ⟨hheader, hurl⟩ := Prod.mk.inj hread
  have hsent : ∃ sent, Url.ofText r.url = .ok sent := by
    cases hs : Url.ofText r.url with
    | error e => simp [hs, Except.toOption] at hurl
    | ok sent => exact ⟨sent, rfl⟩
  obtain ⟨sent, hsent⟩ := hsent
  have hwarnings : cookieHeaderRequest.warnings = [.noValue "list" "Cookie" .header] := by
    decide +kernel
  refine ⟨r, sent, hr, hsent, hheader, hwarnings, fun o ho h => ?_⟩
  have hoperation : (cookieHeaderApi.operation? "list").value
      = some ⟨"list", "GET", "/items", "", [⟨"Cookie", .header, true⟩]⟩ := by decide +kernel
  cases hoperation.symm.trans ho
  -- nothing is lacking, so nothing would be named
  have hnamed := h.named
  rw [hwarnings] at hnamed
  simp [ApiOperation.lacking, ApiOperation.required, hheader, Warning.isNoValue] at hnamed

end ApiPlaybook
