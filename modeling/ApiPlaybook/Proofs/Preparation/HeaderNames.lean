/-
  ApiPlaybook.Proofs.Preparation.HeaderNames
  ──────────────────────────────────────────
  **ONE SPELLING FOR EACH HEADER.**

  A map keeps headers under the exact spelling of their names; whoever asks for
  a header, and whoever receives it, does not look at case.  Four write headers
  of a request:

      the template      sets the names that it has,
      a credential      sets the name that its scheme has, in that spelling,
      the cookies       take all spellings of their header away first,
      the media type    is set where no spelling of its header is there.

  So the names of a finished request differ by more than case exactly when those
  that the template and the credentials set do, spellings of the header for
  cookies beside cookies left aside (`oneSpelling_finish`).  A template with one
  spelling for each header keeps it in a free request; in a request for an
  operation a credential may add a second one (`sendsOneValueEach_requests`,
  `not_sendsOneValueEach_respelled`).
-/
import Mathlib.Data.List.Pairwise
import ApiPlaybook.Proofs.DryRun.Visible
import ApiPlaybook.Proofs.Preparation.Credentials

namespace ApiPlaybook

/-! ## §1. Names of a map. -/

namespace NameMap

variable {α : Type} {m : NameMap α}

/-- A map has the name that was put and those it had. -/
theorem mem_names_insert {name n : String} {value : α} :
    n ∈ (m.insert name value).names ↔ n = name ∨ n ∈ m.names := by
  rw [← get?_isSome, ← get?_isSome, get?_insert]
  by_cases h : n = name
  · simp [h]
  · simp [h]

theorem mem_names_foldl_insert {pairs : List (String × α)} {n : String} :
    n ∈ (pairs.foldl (fun m p => m.insert p.1 p.2) m).names
      ↔ n ∈ m.names ∨ n ∈ pairs.map (·.1) := by
  induction pairs generalizing m with
  | nil => simp
  | cons p rest ih =>
    rw [List.foldl_cons, ih, mem_names_insert, List.map_cons, List.mem_cons]
    tauto

/-- Of the names those are left that pass. -/
theorem mem_names_filterNames {p : String → Bool} {n : String} :
    n ∈ (m.filterNames p).names ↔ n ∈ m.names ∧ p n = true := by
  unfold names filterNames
  simp only [List.mem_map, List.mem_filter]
  constructor
  · rintro ⟨e, ⟨he, hp⟩, rfl⟩
    exact ⟨⟨e, he, rfl⟩, hp⟩
  · rintro ⟨⟨e, he, rfl⟩, hp⟩
    exact ⟨e, ⟨he, hp⟩, rfl⟩

/-- No two names of the map are the same up to case. -/
def OneSpelling (m : NameMap α) : Prop :=
  m.names.Pairwise fun a b => sameIgnoringCase a b = false

/-- Names that are the same up to case are the same. -/
theorem oneSpelling_iff : m.OneSpelling ↔
    ∀ a ∈ m.names, ∀ b ∈ m.names, sameIgnoringCase a b = true → a = b := by
  constructor
  · intro h a ha b hb hs
    have hsymm : Std.Symm fun a b => sameIgnoringCase a b = false :=
      ⟨fun a b hab => by rwa [sameIgnoringCase_comm]⟩
    by_contra hne
    have hdiffer : sameIgnoringCase a b = false := List.Pairwise.forall h ha hb hne
    rw [hs] at hdiffer
    cases hdiffer
  · intro h
    have horder : m.names.Pairwise (· < ·) := List.pairwise_map.mpr m.inOrder
    refine List.Pairwise.imp_of_mem (fun {a b} ha hb hlt => ?_) horder
    cases hs : sameIgnoringCase a b with
    | false => rfl
    | true => exact absurd (h a ha b hb hs ▸ hlt) (String.lt_irrefl b)

end NameMap

/-! ## §2. One value for each header. -/

/-- The values that go out under a name: a receiver does not look at case. -/
def HttpRequest.valuesSent (r : HttpRequest) (name : String) : List String :=
  (r.headers.entries.filter fun e => sameIgnoringCase e.1 name).map (·.2)

/-- No header goes out twice. -/
structure HttpRequest.SendsOneValueEach (r : HttpRequest) : Prop where
  /-- The names differ by more than case. -/
  names : r.headers.OneSpelling
  /-- What is found under a name is all that goes out under it. -/
  values : ∀ name, r.valuesSent name = (r.header? name).toList

/-- With one spelling for each header, the value that is sent is the one that is found. -/
theorem HttpRequest.valuesSent_eq {r : HttpRequest} (h : r.headers.OneSpelling) (name : String) :
    r.valuesSent name = (r.header? name).toList := by
  have hpairs : r.headers.entries.Pairwise fun e e' => sameIgnoringCase e.1 e'.1 = false :=
    List.pairwise_map.mp h
  unfold HttpRequest.valuesSent HttpRequest.header? findHeader NameMap.find?
  dsimp only
  generalize r.headers.entries = entries at hpairs
  induction entries with
  | nil => rfl
  | cons e rest ih =>
    obtain ⟨hothers, hrest⟩ := List.pairwise_cons.mp hpairs
    by_cases hname : sameIgnoringCase e.1 name = true
    · -- the first spelling is the only one
      have hnone : rest.filter (fun e => sameIgnoringCase e.1 name) = [] := by
        rw [List.filter_eq_nil_iff]
        intro e' he' hsame
        have hsame : sameIgnoringCase e.1 e'.1 = true :=
          RequestDraft.same_trans hname (sameIgnoringCase_comm e'.1 name ▸ hsame)
        rw [hothers e' he'] at hsame
        cases hsame
      rw [List.filter_cons, if_pos hname, hnone, List.find?_cons, hname]
      rfl
    · rw [List.filter_cons, if_neg hname, List.find?_cons, Bool.eq_false_iff.mpr hname]
      exact ih hrest

/-- A request sends at most one value for a header exactly when it has one spelling for each. -/
theorem HttpRequest.sendsOneValueEach_iff {r : HttpRequest} :
    r.SendsOneValueEach ↔ r.headers.OneSpelling :=
  ⟨fun h => h.names, fun h => ⟨h, valuesSent_eq h⟩⟩

/-! ## §3. Finishing a draft. -/

/-- No header is found when no name is a spelling of it. -/
theorem findHeader_eq_none {headers : NameMap String} {name : String} :
    findHeader headers name = none ↔
      ∀ n ∈ headers.names, sameIgnoringCase n name = false := by
  unfold findHeader NameMap.find? NameMap.names
  simp

namespace RequestDraft

/-- The media type is no second spelling of a header. -/
theorem oneSpelling_headersWithType (headers : NameMap String) (body : Option Body) :
    (headersWithType headers body).OneSpelling ↔ headers.OneSpelling := by
  cases body with
  | none => rfl
  | some b =>
    unfold headersWithType
    dsimp only
    by_cases hnone : (findHeader headers "content-type").isNone = true
    · rw [if_pos hnone]
      -- the header that is set was there in no spelling
      have hother : ∀ n ∈ headers.names, sameIgnoringCase n "Content-Type" = false := by
        rw [← findHeader_eq_none, findHeader_of_same headers sameIgnoringCase_ContentType]
        exact Option.isNone_iff_eq_none.mp hnone
      rw [NameMap.oneSpelling_iff, NameMap.oneSpelling_iff]
      constructor
      · intro h a ha b hb
        exact h a (NameMap.mem_names_insert.mpr (.inr ha)) b (NameMap.mem_names_insert.mpr (.inr hb))
      · -- two names of which at most one is new
        intro h a ha b hb hs
        rcases NameMap.mem_names_insert.mp ha with rfl | ha <;>
          rcases NameMap.mem_names_insert.mp hb with rfl | hb
        · rfl
        · rw [sameIgnoringCase_comm, hother b hb] at hs
          cases hs
        · rw [hother a ha] at hs
          cases hs
        · exact h a ha b hb hs
    · rw [if_neg hnone]

/-- Cookies leave one spelling of their header; the others are as they were. -/
theorem oneSpelling_headersWithCookies (d : RequestDraft) :
    d.headersWithCookies.OneSpelling ↔
      ∀ a ∈ d.headers.names, ∀ b ∈ d.headers.names, sameIgnoringCase a b = true →
        a = b ∨ (d.cookies ≠ [] ∧ sameIgnoringCase a "cookie" = true) := by
  rw [NameMap.oneSpelling_iff]
  by_cases hnone : d.cookies = []
  · unfold headersWithCookies
    simp [hnone]
  · have hmem (n : String) : n ∈ d.headersWithCookies.names ↔
        n = "Cookie" ∨ (n ∈ d.headers.names ∧ sameIgnoringCase n "cookie" = false) := by
      unfold headersWithCookies
      rw [if_neg (by simpa using hnone), NameMap.mem_names_insert, NameMap.mem_names_filterNames,
        Bool.not_eq_true']
    -- what is left beside the header for cookies is no spelling of it
    have hother {n : String} (hn : sameIgnoringCase n "cookie" = false) :
        sameIgnoringCase n "Cookie" = false := by
      cases hs : sameIgnoringCase n "Cookie" with
      | false => rfl
      | true => rw [← hn, same_trans hs sameIgnoringCase_Cookie]
    constructor
    · intro h a ha b hb hs
      cases hcookie : sameIgnoringCase a "cookie" with
      | true => exact .inr ⟨hnone, rfl⟩
      | false =>
        have hcookie' : sameIgnoringCase b "cookie" = false := by
          cases hb' : sameIgnoringCase b "cookie" with
          | false => rfl
          | true => rw [← hcookie, same_trans hs hb']
        exact .inl (h a ((hmem a).mpr (.inr ⟨ha, hcookie⟩)) b ((hmem b).mpr (.inr ⟨hb, hcookie'⟩)) hs)
    · intro h a ha b hb hs
      rcases (hmem a).mp ha with rfl | ⟨ha, hcookie⟩ <;>
        rcases (hmem b).mp hb with rfl | ⟨hb, hcookie'⟩
      · -- both are the header for cookies
        rfl
      · rw [sameIgnoringCase_comm, hother hcookie'] at hs
        cases hs
      · rw [hother hcookie] at hs
        cases hs
      · rcases h a ha b hb hs with heq | ⟨-, hc⟩
        · exact heq
        · rw [hcookie] at hc
          cases hc

end RequestDraft

/-- The headers that a template and credentials set, in this order. -/
def headersOf (t : Template) (credentials : AuthResult) : List (String × String) :=
  (t.parameters.additions ++ credentials.additions).filterMap (·.header?)

section Finish

variable {t : Template} {credentials : AuthResult}

/-- The names that are set are those of the template and those of the credentials. -/
theorem names_headersOf : (headersOf t credentials).map (·.1)
    = t.parameters.header.names ++ credentials.entries.filterMap (·.2.headerName?) := by
  unfold headersOf
  rw [List.filterMap_append, Parameters.headers_additions, List.map_append]
  congr 1
  · simp [NameMap.names]
  · unfold AuthResult.additions
    rw [List.filterMap_filterMap, List.map_filterMap]
    rfl

/-- They are the names of the draft. -/
theorem mem_names_draftOf {url : Url} {n : String} :
    n ∈ (draftOf url t credentials).headers.names ↔ n ∈ (headersOf t credentials).map (·.1) := by
  unfold draftOf headersOf
  rw [RequestDraft.addAll_headers, NameMap.mem_names_foldl_insert]
  show n ∈ (NameMap.empty : NameMap String).names ∨ _ ↔ _
  simp [NameMap.empty, NameMap.names]

/-- **THE NAMES OF A FINISHED REQUEST** differ by more than case exactly when those that were set
do, but for the header for cookies beside cookies. -/
theorem oneSpelling_finish {url : Url} {method : String} {r : HttpRequest}
    (hr : (draftOf url t credentials).finish method t.body = .ok r) :
    r.headers.OneSpelling ↔
      ∀ a ∈ (headersOf t credentials).map (·.1), ∀ b ∈ (headersOf t credentials).map (·.1),
        sameIgnoringCase a b = true →
          a = b ∨ (cookiesOf t credentials ≠ [] ∧ sameIgnoringCase a "cookie" = true) := by
  have hcookies : (draftOf url t credentials).cookies = cookiesOf t credentials :=
    RequestDraft.addAll_cookies (.ofUrl url) _
  rw [(RequestDraft.finish_eq_ok hr).2, RequestDraft.oneSpelling_headersWithType,
    RequestDraft.oneSpelling_headersWithCookies, hcookies]
  simp only [mem_names_draftOf]

/-! ## §4. Credentials. -/

/-- Where a credential goes to a header that the template or another credential sets too, it has
the same spelling of its name; but for the header for cookies beside cookies. -/
def AuthResult.KeepsSpelling (credentials : AuthResult) (t : Template) : Prop :=
  ∀ e ∈ credentials.entries, ∀ name, e.2.headerName? = some name →
    ∀ other ∈ (headersOf t credentials).map (·.1), sameIgnoringCase other name = true →
      other = name ∨ (cookiesOf t credentials ≠ [] ∧ sameIgnoringCase name "cookie" = true)

/-- Beside a template with one spelling for each header, it is for the credentials to keep it. -/
theorem AuthResult.keepsSpelling_iff (ht : t.parameters.header.OneSpelling) :
    credentials.KeepsSpelling t ↔
      ∀ a ∈ (headersOf t credentials).map (·.1), ∀ b ∈ (headersOf t credentials).map (·.1),
        sameIgnoringCase a b = true →
          a = b ∨ (cookiesOf t credentials ≠ [] ∧ sameIgnoringCase a "cookie" = true) := by
  unfold AuthResult.KeepsSpelling
  constructor
  · intro h a ha b hb hs
    -- one of the two was set by a credential, or both by the template
    rw [names_headersOf] at ha hb
    rcases List.mem_append.mp hb with hb' | hb'
    · rcases List.mem_append.mp ha with ha' | ha'
      · exact .inl (NameMap.oneSpelling_iff.mp ht a ha' b hb' hs)
      · obtain ⟨e, he, hname⟩ := List.mem_filterMap.mp ha'
        rw [← names_headersOf] at hb
        rw [sameIgnoringCase_comm] at hs
        exact (h e he a hname b hb hs).imp_left Eq.symm
    · obtain ⟨e, he, hname⟩ := List.mem_filterMap.mp hb'
      rw [← names_headersOf] at ha
      rcases h e he b hname a ha hs with heq | ⟨hsome, hcookie⟩
      · exact .inl heq
      · exact .inr ⟨hsome, RequestDraft.same_trans hs hcookie⟩
  · intro h e he name hname other hother hs
    have hmem : name ∈ (headersOf t credentials).map (·.1) := by
      rw [names_headersOf]
      exact List.mem_append_right _ (List.mem_filterMap.mpr ⟨e, he, hname⟩)
    rcases h other hother name hmem hs with heq | ⟨hsome, hcookie⟩
    · exact .inl heq
    · rw [sameIgnoringCase_comm] at hs
      exact .inr ⟨hsome, RequestDraft.same_trans hs hcookie⟩

end Finish

/-- **ONE VALUE FOR EACH HEADER.**  Let the template have one spelling for each header.  A request
that is built for an operation has one value for each header exactly when the credentials keep the
spellings of the headers that they go to; a free request always has. -/
theorem sendsOneValueEach_requests {t : Template} (ht : t.parameters.header.OneSpelling) :
    (∀ (doc : ApiDocument) (server id : String) (credentials : AuthResult) (r : HttpRequest),
      (prepareOperation doc server id t credentials).value = .ok r →
        (r.SendsOneValueEach ↔ credentials.KeepsSpelling t)) ∧
    ∀ r, prepareFree t = .ok r → r.SendsOneValueEach := by
  constructor
  · intro doc server id credentials r hr
    obtain ⟨o, u, -, -, hfinish⟩ := prepareOperation_value_eq_ok hr
    rw [HttpRequest.sendsOneValueEach_iff, oneSpelling_finish hfinish,
      AuthResult.keepsSpelling_iff ht]
  · intro r hr
    obtain ⟨u, method, hfinish⟩ := prepareFree_eq_ok hr
    rw [HttpRequest.sendsOneValueEach_iff, oneSpelling_finish hfinish,
      ← AuthResult.keepsSpelling_iff ht]
    intro e he
    cases he

/-! ## §5. Two requests. -/

/-- A bearer that goes to the header of the template, in the same spelling. -/
theorem sendsOneValueEach_bearerAndKey : plainTemplate.parameters.header.OneSpelling ∧
    ∃ r, itemsRequest bearerAndKey = .ok r ∧ r.SendsOneValueEach := by
  have ht : plainTemplate.parameters.header.OneSpelling := List.pairwise_singleton _ _
  obtain ⟨r, hr, -⟩ := exists_of_toOption_map (itemsRequest bearerAndKey)
    (·.header? "Authorization") (some "Bearer a1") (by decide +kernel)
  refine ⟨ht, r, hr, ((sendsOneValueEach_requests ht).1 _ _ _ _ r hr).mpr ?_⟩
  intro e he name hname other hother _
  have hset : (headersOf plainTemplate bearerAndKey).map (·.1)
      = ["Authorization", "Authorization"] := by decide +kernel
  have hentries : bearerAndKey.entries
      = [("admin", bearer "admin" "a1"), ("key", keyInQuery "key" "k1")] := rfl
  have hother : other = "Authorization" := by simpa [hset] using hother
  have hname : name = "Authorization" := by
    rw [hentries] at he
    rcases List.mem_cons.mp he with rfl | he
    · exact (Option.some.inj hname).symm
    · -- a key in the query goes to no header
      cases List.mem_singleton.mp he
      cases hname
  exact .inl (hother.trans hname.symm)

/-- A template that asks without authorization, in small letters. -/
def respelledTemplate : Template :=
  ⟨none, none, ⟨.empty, .ofList [("authorization", .string "none")], .empty, .empty⟩, none⟩

/-- The request for the items with a bearer beside it. -/
def respelledRequest : Except BuildError HttpRequest :=
  (prepareOperation itemsApi "http://[::1]" "list" respelledTemplate
    (.ofList [("admin", bearer "admin" "a1")])).value

/-- The header for authorization goes out twice. -/
theorem not_sendsOneValueEach_respelled : respelledTemplate.parameters.header.OneSpelling ∧
    ∃ r, respelledRequest = .ok r ∧
      r.valuesSent "Authorization" = ["Bearer a1", "none"] ∧
      ¬ r.headers.OneSpelling ∧ ¬ r.SendsOneValueEach := by
  refine ⟨List.pairwise_singleton _ _, ?_⟩
  obtain ⟨r, hr, hsent⟩ := exists_of_toOption_map respelledRequest
    (·.valuesSent "Authorization") ["Bearer a1", "none"] (by decide +kernel)
  have hnot : ¬ r.headers.OneSpelling := by
    intro h
    -- then there would be one value at most
    have hlength := congrArg List.length (HttpRequest.valuesSent_eq h "Authorization")
    rw [hsent] at hlength
    cases hfound : r.header? "Authorization" <;> simp [hfound] at hlength
  exact ⟨r, hr, hsent, hnot, fun h => hnot h.names⟩

end ApiPlaybook
