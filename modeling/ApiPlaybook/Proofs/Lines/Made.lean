/-
  ApiPlaybook.Proofs.Lines.Made
  ─────────────────────────────
  **THE TEXTS THAT A RUN MAKES.**

  A name that is looked up has only characters of names (`IsReferenceName`), the
  URL of a request is the text of one that could be read, and the method is one
  of a list or has only characters of methods (`Setup.prepare_made`).  So none of
  these texts has a line break, whatever the bundle, the API, the values and the
  replies are.
-/
import Mathlib.Algebra.Order.BigOperators.Group.List
import ApiPlaybook.Proofs.Extraction.Queries
import ApiPlaybook.Proofs.Lines.Shown
import ApiPlaybook.Proofs.Template.Missing
import ApiPlaybook.Proofs.Url.PathTemplates

namespace ApiPlaybook

/-! ## §1. Names of references. -/

/-- All characters are characters of names. -/
def IsNamed (name : String) : Prop := ∀ c ∈ name.toList, isNameChar c = true

/-- A name of a reference is on one line. -/
theorem IsNamed.lineBreaks_eq {name : String} (h : IsNamed name) : lineBreaks name = 0 :=
  lineBreaks_eq_zero.mpr fun hbreak => by
    have hname := h _ hbreak
    revert hname
    decide

/-- Each name of the list is that of a variable that is missing. -/
theorem mem_missingNames {missing : List MissingVariable} {name : String}
    (h : name ∈ missingNames missing) : ∃ v ∈ missing, v.name = name := by
  have hmem (names acc : List String)
      (h : name ∈ names.foldl (fun acc n => if acc.contains n then acc else acc ++ [n]) acc) :
      name ∈ acc ∨ name ∈ names := by
    induction names generalizing acc with
    | nil => exact .inl h
    | cons n rest ih =>
      rcases ih _ h with h | h
      · dsimp only at h
        split at h
        · exact .inl h
        · rw [List.mem_append, List.mem_singleton] at h
          exact h.imp_right fun hname => List.mem_cons.mpr (.inl hname)
      · exact .inr (List.mem_cons_of_mem n h)
  exact List.mem_map.mp ((hmem _ [] h).resolve_left List.not_mem_nil)

/-- A list of such names is on one line, since it is joined by commas. -/
theorem lineBreaks_missingNamesText {missing : List MissingVariable}
    (h : ∀ v ∈ missing, IsNamed v.name) : lineBreaks (missingNamesText missing) = 0 := by
  unfold missingNamesText
  rw [lineBreaks_commas, List.sum_eq_zero_iff]
  intro n hn
  obtain ⟨name, hname, rfl⟩ := List.mem_map.mp hn
  obtain ⟨v, hv, rfl⟩ := mem_missingNames hname
  exact (h v hv).lineBreaks_eq

/-- The names that a template lacks are names of references. -/
theorem lineBreaks_missing_credential (template : String) (stack : ScopeStack) :
    lineBreaks (missingNamesText (substituteCredential template stack).missing) = 0 :=
  lineBreaks_missingNamesText fun v hv =>
    (substituteCredential_areReferenceNames template stack v hv).chars

theorem lineBreaks_missing_payload (s : Stage) (request : Request) (outer : ScopeStack) :
    lineBreaks (missingNamesText (s.payload request outer).missing) = 0 :=
  lineBreaks_missingNamesText fun v hv => (s.payload_areReferenceNames request outer v hv).chars

/-! ## §2. Methods and URLs. -/

/-- The text of a URL that could be read has no line break. -/
theorem Url.IsRead.lineBreaks_text {u : Url} (h : u.IsRead) : lineBreaks u.text = 0 := by
  rw [lineBreaks_eq_zero]
  intro hbreak
  unfold Url.text at hbreak
  rw [String.toList_ofList] at hbreak
  exact absurd (h.mem_toList hbreak) (by decide)

/-- Neither the method nor the URL of a request has a line break. -/
def HttpRequest.IsMade (r : HttpRequest) : Prop := lineBreaks r.method = 0 ∧ lineBreaks r.url = 0

/-- The method of a free request, as it is given, in upper case. -/
def Template.methodText (t : Template) : String :=
  Unicode.upperText ((t.method.filter fun m => !isBlankText m).getD "GET")

section Requests

variable {t : Template} {credentials : AuthResult}

/-- A finished draft is sent with the method that it was finished with, to the text of a URL. -/
theorem RequestDraft.made_of_finish {u : Url} (hu : u.IsRead) {method : String}
    (hmethod : lineBreaks method = 0) {body : Option Body} {r : HttpRequest}
    (h : (draftOf u t credentials).finish method body = .ok r) : r.IsMade := by
  refine ⟨?_, ?_⟩
  · unfold RequestDraft.finish at h
    cases htext : body.mapM bodyText with
    | error e =>
      rw [htext] at h
      cases h
    | ok text =>
      rw [htext] at h
      cases h
      exact hmethod
  · rw [(RequestDraft.finish_eq_ok h).1]
    exact ((RequestDraft.isRead_addAll (d := .ofUrl u) hu _).withoutEmptyQuery).lineBreaks_text

/-- The method of an operation is one of those that are looked up. -/
theorem ApiDocument.lineBreaks_method {d : ApiDocument} {id : String} {o : ApiOperation}
    (h : (d.operation? id).value = some o) : lineBreaks o.method = 0 := by
  have hmethods : ∀ m ∈ methods, lineBreaks m.toUpper = 0 := by decide +kernel
  unfold ApiDocument.operation? at h
  cases hplace : d.place? id with
  | none =>
    rw [hplace] at h
    cases h
  | some p =>
    rw [hplace] at h
    cases h
    refine hmethods p.method ?_
    obtain ⟨⟨path, item⟩, -, hp⟩ := List.mem_flatMap.mp (List.mem_of_find?_eq_some hplace)
    obtain ⟨m, hm, hp⟩ := List.mem_filterMap.mp hp
    obtain ⟨operation, -, rfl⟩ := Option.map_eq_some_iff.mp hp
    exact hm

/-- The method of a free request has only characters of methods, or it is given back. -/
theorem freeMethod_cases (t : Template) :
    (∃ method, freeMethod t = .ok method ∧ lineBreaks method = 0) ∨
      freeMethod t = .error (.badMethod t.methodText) := by
  unfold freeMethod
  dsimp only
  split
  · exact .inr rfl
  · next hchars =>
    refine .inl ⟨_, rfl, lineBreaks_eq_zero.mpr fun hbreak => ?_⟩
    have hall := (not_or.mp (mt Bool.or_eq_true_iff.mpr hchars)).2
    rw [Bool.not_eq_true', Bool.not_eq_false, List.all_eq_true] at hall
    exact absurd (hall _ hbreak) (by decide)

/-- A free request that is built has a method of method characters and the text of a URL. -/
theorem prepareFree_made {r : HttpRequest} (h : prepareFree t = .ok r) : r.IsMade := by
  rcases prepareFree_cases t with
    hnone | ⟨given, text, -, -, ⟨e, hbad⟩ | ⟨u, hread, hfinish⟩⟩
  · cases hnone.symm.trans h
  · cases hbad.symm.trans h
  · rw [hfinish] at h
    rcases freeMethod_cases t with ⟨method, hmethod, hplain⟩ | hbad
    · rw [hmethod] at h
      exact RequestDraft.made_of_finish (Url.isRead_of_ofList hread) hplain h
    · rw [hbad] at h
      cases h

end Requests

/-- **A REQUEST THAT IS BUILT** has a method and a URL without line breaks. -/
theorem Setup.prepare_made {c : Setup} {request : Request} {template : Template}
    {credentials : AuthResult} {r : HttpRequest}
    (h : (c.prepare request template credentials).value = .ok r) : r.IsMade := by
  unfold Setup.prepare at h
  cases hid : request.operationId with
  | none =>
    rw [hid] at h
    exact prepareFree_made h
  | some id =>
    rw [hid] at h
    obtain ⟨o, u, ho, hurl, hfinish⟩ := prepareOperation_value_eq_ok h
    obtain ⟨path, -, hread⟩ := ApiOperation.url_eq_ok hurl
    exact RequestDraft.made_of_finish (Url.isRead_of_ofList hread)
      (ApiDocument.lineBreaks_method ho) hfinish

end ApiPlaybook
