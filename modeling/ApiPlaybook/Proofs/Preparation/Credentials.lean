/-
  ApiPlaybook.Proofs.Preparation.Credentials
  ──────────────────────────────────────────
  **A RESOLVED CREDENTIAL IS CARRIED.**

  A credential adds a pair to the query, a cookie or a header.  Pairs and cookies
  are put behind those that are there, and none of them is ever lost.  A header
  has one value: what is set later takes its place.  It is asked for in any case,
  and the first of its spellings is found.  So

      of the credentials that go to one header the last one is carried, unless
      another spelling of it comes first; the header for cookies has the cookies
      of the request behind its value (`prepareOperation_carries`).

  Two credentials for one header are not both carried
  (`not_carries_both_bearers`).
-/
import ApiPlaybook.Proofs.Preparation.Build
import ApiPlaybook.Proofs.Secrecy.Requests

namespace ApiPlaybook

/-! ## §1. Headers. -/

section Headers

variable {headers : NameMap String} {name other value : String}

/-- A name is a spelling of itself. -/
theorem sameIgnoringCase_refl (name : String) : sameIgnoringCase name name = true := by
  simp [sameIgnoringCase]

theorem sameIgnoringCase_comm (name other : String) :
    sameIgnoringCase name other = sameIgnoringCase other name := by
  unfold sameIgnoringCase
  exact Bool.beq_comm

/-- A header may be asked for in any case. -/
theorem findHeader_of_same (headers : NameMap String) (h : sameIgnoringCase name other = true) :
    findHeader headers name = findHeader headers other := by
  have hsame : lowerAscii name = lowerAscii other := eq_of_beq h
  unfold findHeader sameIgnoringCase
  rw [hsame]

/-- An entry of another kind is not found in front of what is looked for. -/
theorem find?_insertEntry {p : String → Bool} (hp : p name = false)
    (entries : List (String × String)) :
    (insertEntry name value entries).find? (fun e => p e.1) = entries.find? fun e => p e.1 := by
  induction entries with
  | nil => simp [insertEntry, hp]
  | cons e rest ih =>
    obtain ⟨n, v⟩ := e
    unfold insertEntry
    split
    · rw [List.find?_cons_of_neg (by simp [hp])]
    · split
      · next hn =>
        rw [List.find?_cons_of_neg (by simp [hp]), List.find?_cons_of_neg (by simp [← hn, hp])]
      · rw [List.find?_cons, List.find?_cons, ih]

/-- A header of another name is as before. -/
theorem findHeader_insert (headers : NameMap String) (value : String)
    (h : sameIgnoringCase other name = false) :
    findHeader (headers.insert other value) name = findHeader headers name :=
  congrArg (Option.map Prod.snd)
    (find?_insertEntry (p := fun n => sameIgnoringCase n name) h headers.entries)

/-- Taking other headers away does not change what is found. -/
theorem findHeader_filterNames (headers : NameMap String) {p : String → Bool}
    (h : ∀ n, sameIgnoringCase n name = true → p n = true) :
    findHeader (headers.filterNames p) name = findHeader headers name := by
  unfold findHeader NameMap.find? NameMap.filterNames
  dsimp only
  rw [List.find?_filter]
  congr 2
  funext e
  cases hs : sameIgnoringCase e.1 name with
  | false => simp
  | true => simp [h e.1 hs]

/-- Of the spellings of a header the first one is found. -/
theorem findHeader_of_get? (hfirst : ∀ e ∈ headers.entries, sameIgnoringCase e.1 name = true →
    name ≤ e.1) (h : headers.get? name = some value) : findHeader headers name = some value := by
  have horder := headers.inOrder
  unfold NameMap.get? at h
  unfold findHeader NameMap.find?
  generalize headers.entries = entries at hfirst h horder
  induction entries with
  | nil => cases h
  | cons e rest ih =>
    obtain ⟨n, v⟩ := e
    obtain ⟨hbehind, horder⟩ := List.pairwise_cons.mp horder
    rw [findEntry] at h
    split at h
    · next hn =>
      cases h
      rw [List.find?_cons_of_pos (by rw [hn]; exact sameIgnoringCase_refl n)]
      rfl
    · -- what stands in front of a name is no spelling of it
      have hother : ¬ sameIgnoringCase n name = true := fun hs =>
        hfirst (n, v) List.mem_cons_self hs (hbehind (name, value) (mem_of_findEntry h))
      rw [List.find?_cons_of_neg (by simpa using hother)]
      exact ih (fun e he => hfirst e (List.mem_cons_of_mem _ he)) h horder

end Headers

namespace NameMap

variable {α : Type} {name : String} {value : α}

/-- What is in a map in the end was there or was put there. -/
theorem mem_foldl_insert {pairs : List (String × α)} {m : NameMap α} {e : String × α}
    (h : e ∈ (pairs.foldl (fun m p => m.insert p.1 p.2) m).entries) :
    e ∈ m.entries ∨ e ∈ pairs := by
  induction pairs generalizing m with
  | nil => exact .inl h
  | cons p pairs ih =>
    rcases ih h with h | h
    · rcases mem_insertEntry h with rfl | h
      · exact .inr List.mem_cons_self
      · exact .inl h
    · exact .inr (List.mem_cons_of_mem _ h)

/-- A name that is not put has the value it had. -/
theorem get?_foldl_insert {pairs : List (String × α)} (m : NameMap α)
    (h : ∀ p ∈ pairs, p.1 ≠ name) :
    (pairs.foldl (fun m p => m.insert p.1 p.2) m).get? name = m.get? name := by
  induction pairs generalizing m with
  | nil => rfl
  | cons p pairs ih =>
    rw [List.foldl_cons, ih _ fun q hq => h q (List.mem_cons_of_mem _ hq), get?_insert,
      if_neg (h p List.mem_cons_self).symm]

/-- The last pair of a name counts. -/
theorem get?_ofList_append {before after : List (String × α)} (h : ∀ p ∈ after, p.1 ≠ name) :
    (ofList (before ++ (name, value) :: after)).get? name = some value := by
  unfold ofList
  rw [List.foldl_append, List.foldl_cons, get?_foldl_insert _ h, get?_insert_self]

end NameMap

/-- The last of the headers of one name is found, if no other spelling stands in front of it. -/
theorem findHeader_ofList {before after : List (String × String)} {name value : String}
    (hlast : ∀ p ∈ after, p.1 ≠ name)
    (hfirst : ∀ p ∈ before ++ after, sameIgnoringCase p.1 name = true → name ≤ p.1) :
    findHeader (.ofList (before ++ (name, value) :: after)) name = some value := by
  refine findHeader_of_get? (fun e he hs => ?_) (NameMap.get?_ofList_append hlast)
  rcases NameMap.mem_foldl_insert he with he | he
  · cases he
  · rcases List.mem_append.mp he with he | he
    · exact hfirst e (List.mem_append_left _ he) hs
    · rcases List.mem_cons.mp he with rfl | he
      · exact String.le_refl _
      · exact hfirst e (List.mem_append_right _ he) hs

/-! ## §2. What a draft holds. -/

namespace Addition

def pair? : Addition → Option (String × String)
  | .pair name value => some (name, value)
  | _ => none

def header? : Addition → Option (String × String)
  | .header name value => some (name, value)
  | _ => none

def cookie? : Addition → Option (String × String)
  | .cookie name value => some (name, value)
  | _ => none

end Addition

namespace RequestDraft

/-- The pairs of the query are those of the URL and then those that are added. -/
theorem addAll_queryPairs (d : RequestDraft) (additions : List Addition) :
    (d.addAll additions).url.queryPairs = d.url.queryPairs ++ additions.filterMap (·.pair?) := by
  induction additions generalizing d with
  | nil => simp [addAll]
  | cons addition rest ih =>
    refine (ih (d.add addition)).trans ?_
    cases addition with
    | pair name value =>
      show (d.url.withPair name value).queryPairs ++ _ = _
      rw [Url.queryPairs_withPair, List.append_assoc]
      rfl
    | header name value => rfl
    | cookie name value => rfl

/-- A header that is added takes the place of the one of that spelling. -/
theorem addAll_headers (d : RequestDraft) (additions : List Addition) :
    (d.addAll additions).headers
      = (additions.filterMap (·.header?)).foldl (fun m p => m.insert p.1 p.2) d.headers := by
  induction additions generalizing d with
  | nil => rfl
  | cons addition rest ih =>
    refine (ih (d.add addition)).trans ?_
    cases addition <;> rfl

/-- The cookies are those that were there and then those that are added. -/
theorem addAll_cookies (d : RequestDraft) (additions : List Addition) :
    (d.addAll additions).cookies = d.cookies ++ additions.filterMap (·.cookie?) := by
  induction additions generalizing d with
  | nil => simp [addAll]
  | cons addition rest ih =>
    refine (ih (d.add addition)).trans ?_
    cases addition with
    | cookie name value =>
      show (d.cookies ++ [(name, value)]) ++ _ = _
      rw [List.append_assoc]
      rfl
    | pair name value => rfl
    | header name value => rfl

end RequestDraft

/-! ## §3. What a request shows. -/

namespace RequestDraft

/-- How the header for cookies is written, and how it is asked for. -/
theorem sameIgnoringCase_Cookie : sameIgnoringCase "Cookie" "cookie" = true := by
  unfold sameIgnoringCase
  rw [lowerAscii_Cookie, lowerAscii_cookie]
  exact beq_self_eq_true _

theorem sameIgnoringCase_ContentType : sameIgnoringCase "Content-Type" "content-type" = true := by
  have hlower : lowerAscii "Content-Type" = "content-type" := by decide +kernel
  have hsame : lowerAscii "content-type" = "content-type" := by decide +kernel
  unfold sameIgnoringCase
  rw [hlower, hsame]
  exact beq_self_eq_true _

/-- A spelling of a spelling is a spelling. -/
theorem same_trans {name other third : String} (h : sameIgnoringCase name other = true)
    (h' : sameIgnoringCase other third = true) : sameIgnoringCase name third = true := by
  have hsame : lowerAscii name = lowerAscii other := eq_of_beq h
  unfold sameIgnoringCase at h' ⊢
  rwa [hsame]

/-- The media type of the body takes the place of no header. -/
theorem findHeader_headersWithType {headers : NameMap String} {name value : String}
    (h : findHeader headers name = some value) (body : Option Body) :
    findHeader (headersWithType headers body) name = some value := by
  cases body with
  | none => exact h
  | some b =>
    unfold headersWithType
    dsimp only
    split
    · next hnone =>
      rw [findHeader_insert _ _ ?_, h]
      cases hs : sameIgnoringCase "Content-Type" name with
      | false => rfl
      | true =>
        -- then there is a type already
        rw [← findHeader_of_same headers sameIgnoringCase_ContentType,
          findHeader_of_same headers hs, h] at hnone
        cases hnone
    · exact h

/-- The value of a header beside cookies: that of the header for cookies has them behind it. -/
def besideCookies (cookies : List (String × String)) (name value : String) : String :=
  if sameIgnoringCase name "cookie" && !cookies.isEmpty then value ++ "; " ++ cookiesText cookies
  else value

/-- Without cookies a header keeps its value. -/
theorem besideCookies_nil (name value : String) : besideCookies [] name value = value := by
  simp [besideCookies]

/-- The header for cookies. -/
theorem findHeader_cookie {d : RequestDraft} (hsome : d.cookies ≠ []) {name : String}
    (hname : sameIgnoringCase name "cookie" = true) :
    findHeader d.headersWithCookies name
      = some (match d.header? "cookie" with
        | some earlier => earlier ++ "; " ++ cookiesText d.cookies
        | none => cookiesText d.cookies) := by
  have hsame : sameIgnoringCase name "Cookie" = true :=
    same_trans hname (sameIgnoringCase_comm _ _ ▸ sameIgnoringCase_Cookie)
  unfold headersWithCookies
  rw [if_neg (by simpa using hsome), findHeader_of_same _ hsame]
  refine findHeader_of_get? (fun e he hs => ?_) (NameMap.get?_insert_self _ _ _)
  rcases mem_insertEntry he with rfl | he
  · exact String.le_refl _
  · -- the others were left out
    have hkept : (!sameIgnoringCase e.1 "cookie") = true := (List.mem_filter.mp he).2
    rw [same_trans hs sameIgnoringCase_Cookie] at hkept
    cases hkept

/-- A header that was set is found, with the cookies behind it if it is theirs. -/
theorem findHeader_headersWithCookies {d : RequestDraft} {name value : String}
    (h : findHeader d.headers name = some value) :
    findHeader d.headersWithCookies name = some (besideCookies d.cookies name value) := by
  unfold besideCookies
  cases hc : d.cookies.isEmpty with
  | true =>
    unfold headersWithCookies
    rw [if_pos hc, h]
    simp
  | false =>
    -- the header for cookies is joined with what it was, any other one is passed by
    cases hname : sameIgnoringCase name "cookie" with
    | true =>
      rw [findHeader_cookie (by simpa using hc) hname, header?, ← findHeader_of_same _ hname, h]
      rfl
    | false =>
      have hother : sameIgnoringCase "Cookie" name = false := by
        cases hs : sameIgnoringCase "Cookie" name with
        | false => rfl
        | true =>
          rw [same_trans (sameIgnoringCase_comm _ _ ▸ hs) sameIgnoringCase_Cookie] at hname
          cases hname
      unfold headersWithCookies
      rw [if_neg (by simp [hc]), findHeader_insert _ _ hother, findHeader_filterNames _ ?_, h]
      · rfl
      · intro n hn
        cases hs : sameIgnoringCase n "cookie" with
        | false => rfl
        | true =>
          rw [same_trans (sameIgnoringCase_comm _ _ ▸ hn) hs] at hname
          cases hname

/-- A header of the draft is one of the request, with the cookies behind it if it is theirs. -/
theorem header?_of_finish {d : RequestDraft} {method : String} {body : Option Body}
    {r : HttpRequest} (hr : d.finish method body = .ok r) {name value : String}
    (h : findHeader d.headers name = some value) :
    r.header? name = some (besideCookies d.cookies name value) := by
  rw [HttpRequest.header?, (finish_eq_ok hr).2]
  exact findHeader_headersWithType (findHeader_headersWithCookies h) body

/-- Every cookie stands in the header for cookies. -/
theorem cookie_of_finish {d : RequestDraft} {method : String} {body : Option Body}
    {r : HttpRequest} (hr : d.finish method body = .ok r) {name value : String}
    (h : (name, value) ∈ d.cookies) :
    ∃ before after, r.header? "Cookie"
      = some ("; ".intercalate (before ++ (name ++ "=" ++ value) :: after)) := by
  have hfound := findHeader_headersWithType
    (findHeader_cookie (List.ne_nil_of_mem h) sameIgnoringCase_Cookie) body
  rw [← (finish_eq_ok hr).2] at hfound
  -- the pair stands somewhere among the cookies that are joined
  obtain ⟨cookies, more, hcookies⟩ := List.append_of_mem h
  have htext : cookiesText d.cookies = "; ".intercalate
      ((cookies.map fun c => c.1 ++ "=" ++ c.2) ++ (name ++ "=" ++ value)
        :: more.map fun c => c.1 ++ "=" ++ c.2) := by
    unfold cookiesText
    refine congrArg _ ?_
    rw [hcookies, List.map_append]
    rfl
  cases he : d.header? "cookie" with
  | none =>
    rw [he] at hfound
    exact ⟨_, _, hfound.trans (congrArg some htext)⟩
  -- a header of the template stands before all of them
  | some earlier =>
    rw [he] at hfound
    refine ⟨earlier :: cookies.map fun c => c.1 ++ "=" ++ c.2,
      more.map fun c => c.1 ++ "=" ++ c.2, hfound.trans ?_⟩
    rw [List.cons_append, String.intercalate_cons_of_ne_nil (by simp), ← htext]

end RequestDraft

/-! ## §4. Credentials. -/

namespace Addition

/-- What is to be seen of an addition beside cookies. -/
def beside (cookies : List (String × String)) : Addition → Addition
  | .header name value => .header name (RequestDraft.besideCookies cookies name value)
  | addition => addition

end Addition

/-- A request to a URL, with more in its query, carries a pair, a header or a cookie. -/
def HttpRequest.Carries (r : HttpRequest) (start : Url) : Addition → Prop
  | .pair name value => ∃ query, r.url = Url.text { start with query := some query } ∧
      (name, value) ∈ Url.formPairs query
  | .header name value => r.header? name = some value
  | .cookie name value => ∃ before after, r.header? "Cookie"
      = some ("; ".intercalate (before ++ (name ++ "=" ++ value) :: after))

/-- The header that a credential goes to, if any. -/
def ResolvedCredential.headerName? (c : ResolvedCredential) : Option String :=
  (c.addition?.bind (·.header?)).map (·.1)

/-- Nothing takes the place of a header that a credential sets. -/
structure KeepsHeader (t : Template) (credentials : AuthResult) (auth name : String) : Prop where
  /-- No later credential goes to this header. -/
  last : ∀ e ∈ credentials.entries, auth < e.1 → e.2.headerName? ≠ some name
  /-- No credential goes to a spelling of it that is found first. -/
  first : ∀ e ∈ credentials.entries, ∀ other, e.2.headerName? = some other →
    sameIgnoringCase other name = true → name ≤ other
  /-- Nor is there one in the template. -/
  template : ∀ e ∈ t.parameters.header.entries, sameIgnoringCase e.1 name = true → name ≤ e.1

section Carrying

variable {t : Template} {credentials : AuthResult} {auth : String} {c : ResolvedCredential}
  {scheme : SecurityScheme}

/-- The credentials around one of them. -/
theorem AuthResult.entries_around (h : credentials.get? auth = some c) :
    ∃ before after, credentials.entries = before ++ (auth, c) :: after ∧
      ∀ e ∈ after, auth < e.1 := by
  obtain ⟨before, after, hentries⟩ := List.append_of_mem (NameMap.mem_of_get? h)
  have horder := credentials.inOrder
  rw [hentries] at horder
  exact ⟨before, after, hentries, (List.pairwise_cons.mp (List.pairwise_append.mp horder).2.1).1⟩

/-- The headers of a template are added in the order of their names. -/
theorem Parameters.headers_additions (ps : Parameters) :
    ps.additions.filterMap (·.header?) = ps.header.entries.map fun e => (e.1, e.2.inlineText) := by
  unfold Parameters.additions
  rw [List.filterMap_append, List.filterMap_append]
  simp [List.filterMap_map, Addition.header?]

/-- What a credential adds is among the additions. -/
theorem AuthResult.mem_additions (h : credentials.get? auth = some c)
    (hscheme : c.scheme = some scheme) : scheme.addition c ∈ credentials.additions :=
  List.mem_filterMap.mpr ⟨(auth, c), NameMap.mem_of_get? h, by
    simp [ResolvedCredential.addition?, hscheme]⟩

/-- A header that is kept is found in the draft. -/
theorem findHeader_draftOf {url : Url} {name value : String} (h : credentials.get? auth = some c)
    (hscheme : c.scheme = some scheme) (hheader : scheme.addition c = .header name value)
    (hkeeps : KeepsHeader t credentials auth name) :
    findHeader (draftOf url t credentials).headers name = some value := by
  obtain ⟨before, after, hentries, hafter⟩ := AuthResult.entries_around h
  have hheaders : (draftOf url t credentials).headers = .ofList
      ((t.parameters.header.entries.map (fun e => (e.1, e.2.inlineText))
          ++ before.filterMap fun e => e.2.addition?.bind (·.header?))
        ++ (name, value) :: after.filterMap fun e => e.2.addition?.bind (·.header?)) := by
    have hadded : (c.addition?.bind (·.header?)) = some (name, value) := by
      simp [ResolvedCredential.addition?, hscheme, hheader, Addition.header?]
    unfold draftOf
    rw [RequestDraft.addAll_headers, List.filterMap_append, Parameters.headers_additions,
      AuthResult.additions, List.filterMap_filterMap, hentries, List.filterMap_append,
      List.filterMap_cons_some (f := fun e : String × ResolvedCredential =>
        e.2.addition?.bind (·.header?)) hadded, List.append_assoc]
    rfl
  have hname {e : String × ResolvedCredential} {p : String × String}
      (hp : e.2.addition?.bind (·.header?) = some p) : e.2.headerName? = some p.1 := by
    simp [ResolvedCredential.headerName?, hp]
  rw [hheaders]
  -- no later credential takes its place, and no other spelling comes before it
  refine findHeader_ofList (fun p hp he => ?_) fun p hp hs => ?_
  · obtain ⟨e, hmem, hp⟩ := List.mem_filterMap.mp hp
    exact hkeeps.last e (hentries ▸ List.mem_append_right _ (.tail _ hmem)) (hafter e hmem)
      (he ▸ hname hp)
  · rw [List.append_assoc] at hp
    rcases List.mem_append.mp hp with hp | hp
    · obtain ⟨e, he, rfl⟩ := List.mem_map.mp hp
      exact hkeeps.template e he hs
    · rw [← List.filterMap_append] at hp
      obtain ⟨e, he, hp⟩ := List.mem_filterMap.mp hp
      refine hkeeps.first e (hentries ▸ ?_) p.1 (hname hp) hs
      exact (List.mem_append.mp he).elim (List.mem_append_left _) fun he =>
        List.mem_append_right _ (.tail _ he)

/-- A pair stands in the query of the request. -/
theorem pair_of_finish {url : Url} {r : HttpRequest} {method : String} {body : Option Body}
    (hr : (draftOf url t credentials).finish method body = .ok r) {name value : String}
    (h : (name, value) ∈
      (t.parameters.additions ++ credentials.additions).filterMap (·.pair?)) :
    r.Carries url (.pair name value) := by
  obtain ⟨query, hurl⟩ := RequestDraft.addAll_url (.ofUrl url)
    (t.parameters.additions ++ credentials.additions)
  have hurl : (draftOf url t credentials).url = { url with query := query } := hurl
  have hpairs : (name, value) ∈ (draftOf url t credentials).url.queryPairs := by
    unfold draftOf
    rw [RequestDraft.addAll_queryPairs]
    exact List.mem_append_right _ h
  rw [hurl] at hpairs
  cases query with
  | none => cases hpairs
  | some query =>
    have hkept : ({ url with query := some query } : Url).withoutEmptyQuery
        = { url with query := some query } := by
      cases query with
      | nil => cases hpairs
      | cons c query => rfl
    exact ⟨query, by rw [(RequestDraft.finish_eq_ok hr).1, hurl, hkept], hpairs⟩

/-- A finished draft carries its additions. -/
theorem carries_of_finish {url : Url} {r : HttpRequest} {method : String} {body : Option Body}
    (hr : (draftOf url t credentials).finish method body = .ok r)
    (h : credentials.get? auth = some c) (hscheme : c.scheme = some scheme)
    (hkeeps : ∀ name value, scheme.addition c = .header name value →
      KeepsHeader t credentials auth name) :
    r.Carries url ((scheme.addition c).beside (draftOf url t credentials).cookies) := by
  have hmem : scheme.addition c ∈ t.parameters.additions ++ credentials.additions :=
    List.mem_append_right _ (AuthResult.mem_additions h hscheme)
  cases hadd : scheme.addition c with
  | pair name value =>
    rw [hadd] at hmem
    exact pair_of_finish hr (List.mem_filterMap.mpr ⟨_, hmem, rfl⟩)
  | header name value =>
    refine RequestDraft.header?_of_finish hr ?_
    exact findHeader_draftOf h hscheme hadd (hkeeps name value hadd)
  | cookie name value =>
    rw [hadd] at hmem
    refine RequestDraft.cookie_of_finish hr ?_
    unfold draftOf
    rw [RequestDraft.addAll_cookies]
    exact List.mem_append_right _ (List.mem_filterMap.mpr ⟨_, hmem, rfl⟩)

end Carrying

/-- The cookies of a request. -/
def cookiesOf (t : Template) (credentials : AuthResult) : List (String × String) :=
  (t.parameters.additions ++ credentials.additions).filterMap (·.cookie?)

/-- **A RESOLVED CREDENTIAL IS CARRIED** by the request that was built, all of them together:
those in the query and in cookies always, and of those in one header the last. -/
theorem prepareOperation_carries {doc : ApiDocument} {server id : String} {t : Template}
    {credentials : AuthResult} {r : HttpRequest}
    (hr : (prepareOperation doc server id t credentials).value = .ok r) :
    ∃ o start, (doc.operation? id).value = some o ∧
      o.url server t.parameters.path = .ok start ∧
      ∀ auth c scheme, credentials.get? auth = some c → c.scheme = some scheme →
        (∀ name value, scheme.addition c = .header name value →
          KeepsHeader t credentials auth name) →
        r.Carries start ((scheme.addition c).beside (cookiesOf t credentials)) := by
  obtain ⟨o, start, ho, hstart, hfinish⟩ := prepareOperation_value_eq_ok hr
  refine ⟨o, start, ho, hstart, fun auth c scheme h hscheme hkeeps => ?_⟩
  have hcookies : (draftOf start t credentials).cookies = cookiesOf t credentials :=
    RequestDraft.addAll_cookies (.ofUrl start) _
  rw [← hcookies]
  exact carries_of_finish hfinish h hscheme hkeeps

/-! ## §5. Two requests. -/

/-- An API with one operation. -/
def itemsApi : ApiDocument :=
  ⟨.ofMembers [("paths", .ofMembers [("/items",
    .ofMembers [("get", .ofMembers [("operationId", .string "list")])])])]⟩

/-- A template that asks without authorization. -/
def plainTemplate : Template :=
  ⟨none, none, ⟨.empty, .ofList [("Authorization", .string "none")], .empty, .empty⟩, none⟩

/-- The request for the items. -/
def itemsRequest (credentials : AuthResult) : Except BuildError HttpRequest :=
  (prepareOperation itemsApi "http://[::1]" "list" plainTemplate credentials).value

def bearer (name value : String) : ResolvedCredential :=
  ⟨⟨name, "static"⟩, value, some ⟨.bearer, none, none⟩⟩

def keyInQuery (name value : String) : ResolvedCredential :=
  ⟨⟨name, "static"⟩, value, some ⟨.apiKey, some .query, none⟩⟩

/-- Two credentials that go to places of their own. -/
def bearerAndKey : AuthResult :=
  .ofList [("admin", bearer "admin" "a1"), ("key", keyInQuery "key" "k1")]

/-- Both are carried, and the template's own header gave way. -/
theorem carries_bearerAndKey : ∃ r start, itemsRequest bearerAndKey = .ok r ∧
    r.Carries start (.header "Authorization" "Bearer a1") ∧
    r.Carries start (.pair "key" "k1") := by
  obtain ⟨r, hr, -⟩ := exists_of_toOption_map (itemsRequest bearerAndKey)
    (·.header? "Authorization") (some "Bearer a1") (by decide +kernel)
  obtain ⟨-, start, -, -, hcarries⟩ := prepareOperation_carries hr
  have hcookies : cookiesOf plainTemplate bearerAndKey = [] := rfl
  rw [hcookies] at hcarries
  have hentries : bearerAndKey.entries
      = [("admin", bearer "admin" "a1"), ("key", keyInQuery "key" "k1")] := rfl
  -- the other credential is no header, so nothing replaces this one
  have hkeeps : KeepsHeader plainTemplate bearerAndKey "admin" "Authorization" := by
    refine ⟨fun e he hlt => ?_, fun e he other hother _ => ?_, fun e he _ => ?_⟩
    · rw [hentries] at he
      rcases List.mem_cons.mp he with rfl | he
      · exact absurd hlt (String.lt_irrefl _)
      · cases List.mem_singleton.mp he
        exact nofun
    · rw [hentries] at he
      rcases List.mem_cons.mp he with rfl | he
      · cases hother
        exact String.le_refl _
      · cases List.mem_singleton.mp he
        cases hother
    · cases List.mem_singleton.mp he
      exact String.le_refl _
  refine ⟨r, start, hr, ?_, ?_⟩
  · have hbearer := hcarries "admin" (bearer "admin" "a1") ⟨.bearer, none, none⟩ rfl rfl
      fun name value h => by cases h; exact hkeeps
    exact hbearer.trans (congrArg some (RequestDraft.besideCookies_nil _ _))
  · exact hcarries "key" (keyInQuery "key" "k1") ⟨.apiKey, some .query, none⟩ rfl rfl
      fun name value h => by cases h

/-- Two credentials that go to the same header. -/
def twoBearers : AuthResult :=
  .ofList [("admin", bearer "admin" "a1"), ("user", bearer "user" "u1")]

/-- The second bearer takes the place of the first. -/
theorem not_carries_both_bearers : ∃ r, itemsRequest twoBearers = .ok r ∧
    r.header? "Authorization" = some "Bearer u1" ∧
    ∀ start, ¬ ∀ auth c scheme, twoBearers.get? auth = some c → c.scheme = some scheme →
      r.Carries start (scheme.addition c) := by
  obtain ⟨r, hr, hheader⟩ := exists_of_toOption_map (itemsRequest twoBearers)
    (·.header? "Authorization") (some "Bearer u1") (by decide +kernel)
  refine ⟨r, hr, hheader, fun start h => ?_⟩
  have hfirst : r.header? "Authorization" = some "Bearer a1" :=
    h "admin" (bearer "admin" "a1") ⟨.bearer, none, none⟩ rfl rfl
  rw [hheader] at hfirst
  exact absurd hfirst (by decide)

end ApiPlaybook
