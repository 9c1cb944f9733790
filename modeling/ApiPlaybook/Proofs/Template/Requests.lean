/-
  ApiPlaybook.Proofs.Template.Requests
  ────────────────────────────────────
  **THE STRINGS OF A REQUEST TEMPLATE.**

  References may stand in eight places of a request template: the URL, the method,
  four maps of parameters, and the media type and the value of the body.  A
  substitution answers those of seven and fills the strings there; the media type
  is passed on as it is (`substituteTemplate_filled`).  So every reference of a
  template is replaced or reported exactly when its media type has none
  (`replaced_substituteTemplate`).
-/
import ApiPlaybook.Proofs.Template.Filled

namespace ApiPlaybook

/-! ## §1. The strings of a template. -/

/-- The strings in which references are looked up, in their order. -/
def Template.leaves (t : Template) : List Leaf :=
  t.url.toList.map (⟨·, "/url"⟩) ++ t.method.toList.map (⟨·, "/method"⟩)
    ++ memberLeaves "/parameters/query" t.parameters.query.entries
    ++ memberLeaves "/parameters/header" t.parameters.header.entries
    ++ memberLeaves "/parameters/path" t.parameters.path.entries
    ++ memberLeaves "/parameters/cookie" t.parameters.cookie.entries
    ++ t.body.toList.flatMap (·.value.leaves "/body")

/-- All strings: these and the media type of the body. -/
def Template.strings (t : Template) : List String :=
  t.leaves.map (·.text) ++ t.body.toList.map (·.mediaType)

/-- A text that may be absent is one leaf or none. -/
theorem optionalLookUps_eq (location : String) (s : Option String) :
    optionalLookUps location s = (s.toList.map (⟨·, location⟩)).flatMap Leaf.lookUps := by
  unfold optionalLookUps
  rw [List.flatMap_map]
  rfl

/-- The look-ups of a template are those of its leaves. -/
theorem Template.lookUps_eq (t : Template) : t.lookUps = t.leaves.flatMap Leaf.lookUps := by
  have hbody : t.body.toList.flatMap (fun b => b.value.lookUps "/body")
      = (t.body.toList.flatMap fun b => b.value.leaves "/body").flatMap Leaf.lookUps := by
    rw [List.flatMap_assoc]
    exact List.flatMap_congr fun b _ => Json.lookUps_eq "/body" b.value
  unfold Template.lookUps Template.leaves
  simp only [List.flatMap_append, ← optionalLookUps_eq, ← memberLookUps_eq, hbody]

/-- The names that are looked up are those that the strings refer to. -/
theorem names_lookUps (leaves : List Leaf) :
    (leaves.flatMap Leaf.lookUps).map (·.name) = (leaves.map (·.text)).flatMap variableNames := by
  rw [List.map_flatMap, List.flatMap_map]
  refine List.flatMap_congr fun l _ => ?_
  unfold Leaf.lookUps textLookUps
  rw [List.map_map]
  exact List.map_id _

/-! ## §2. Templates that are filled. -/

/-- A text in which each reference gives way to the text of its value. -/
def TextFilled (stack : ScopeStack) (s s' : String) : Prop :=
  ∃ ps, Scan [] s.toList ps ∧ s' = String.ofList (ps.flatMap (·.filled stack))

/-- There is one way to fill a text. -/
theorem textFilled_iff {stack : ScopeStack} (location : String) {s s' : String} :
    TextFilled stack s s' ↔ s' = (substituteText stack location s).value := by
  rw [substituteText_eq]
  constructor
  · rintro ⟨ps, hscan, rfl⟩
    rw [scan_iff.mp hscan]
    rfl
  · rintro rfl
    exact ⟨pieces s.toList, scan_iff.mpr rfl, rfl⟩

/-- A text without references stays as it is. -/
theorem textFilled_of_no_names {stack : ScopeStack} {s : String} (h : variableNames s = []) :
    TextFilled stack s s := by
  refine ⟨pieces s.toList, scan_iff.mpr rfl, ?_⟩
  have hwritten : (pieces s.toList).flatMap (·.filled stack)
      = (pieces s.toList).flatMap Piece.written := by
    refine List.flatMap_congr fun p hp => ?_
    cases p with
    | char c => rfl
    | reference r =>
      have hname : r.name ∈ variableNames s := List.mem_filterMap.mpr ⟨_, hp, rfl⟩
      rw [h] at hname
      cases hname
  rw [hwritten, written_pieces, String.ofList_toList]

/-- A template with the strings filled; `media` says how the media types are related. -/
structure Template.Filled (stack : ScopeStack) (media : String → String → Prop)
    (t t' : Template) : Prop where
  url : Option.Rel (TextFilled stack) t.url t'.url
  method : Option.Rel (TextFilled stack) t.method t'.method
  query : MembersFilled stack t.parameters.query.entries t'.parameters.query.entries
  header : MembersFilled stack t.parameters.header.entries t'.parameters.header.entries
  path : MembersFilled stack t.parameters.path.entries t'.parameters.path.entries
  cookie : MembersFilled stack t.parameters.cookie.entries t'.parameters.cookie.entries
  body : Option.Rel (fun b b' => media b.mediaType b'.mediaType ∧
    Json.Filled stack b.value b'.value) t.body t'.body

/-- Media types that are kept, when these are so related to themselves. -/
theorem Template.Filled.of_kept {stack : ScopeStack} {media : String → String → Prop}
    {t t' : Template} (h : t.Filled stack (· = ·) t')
    (hmedia : ∀ b ∈ t.body, media b.mediaType b.mediaType) : t.Filled stack media t' := by
  refine { h with body := ?_ }
  have hbody := h.body
  generalize t.body = body at hbody hmedia
  generalize t'.body = body' at hbody
  cases hbody with
  | none => exact .none
  | some hb =>
    obtain ⟨hkept, hvalue⟩ := hb
    exact .some ⟨hkept ▸ hmedia _ rfl, hvalue⟩

section Filled

variable (stack : ScopeStack)

/-- A text that may be absent is filled if it is there. -/
theorem substituteOptional_filled (location : String) (s : Option String) :
    Option.Rel (TextFilled stack) s (substituteOptional stack location s).value := by
  rw [substituteOptional_value]
  cases s with
  | none => exact .none
  | some s => exact .some ((textFilled_iff location).mpr rfl)

/-- A body has its value filled, and keeps its media type. -/
theorem substituteBody_filled (b : Option Body) :
    Option.Rel (fun b b' => b.mediaType = b'.mediaType ∧ Json.Filled stack b.value b'.value) b
      (substituteBody stack b).value := by
  cases b with
  | none => exact .none
  | some b => exact .some ⟨rfl, substitute_filled "/body" b.value⟩

/-- **THE STRINGS OF A TEMPLATE ARE FILLED**, and its media type is kept. -/
theorem substituteTemplate_filled (t : Template) :
    t.Filled stack (· = ·) (substituteTemplate t stack).value where
  url := substituteOptional_filled stack "/url" t.url
  method := substituteOptional_filled stack "/method" t.method
  query := substituteMembers_filled "/parameters/query" t.parameters.query.entries
  header := substituteMembers_filled "/parameters/header" t.parameters.header.entries
  path := substituteMembers_filled "/parameters/path" t.parameters.path.entries
  cookie := substituteMembers_filled "/parameters/cookie" t.parameters.cookie.entries
  body := substituteBody_filled stack t.body

/-- The references of the leaves are answered in their order. -/
theorem substituteTemplate_answered (t : Template) :
    Answered stack (t.leaves.flatMap Leaf.lookUps) (substituteTemplate t stack).found
      (substituteTemplate t stack).missing := by
  rw [← Template.lookUps_eq]
  exact (substituteTemplate_makes stack t).answered

end Filled

/-! ## §3. Templates without a reference that is left. -/

/-- Every reference in a string of the template is answered by one record, in any order, and
where nothing is missing every string is filled. -/
structure Template.Replaced (stack : ScopeStack) (t : Template) (r : Replacement Template) :
    Prop where
  answered : ∃ ls, (ls.map (·.name)).Perm (t.strings.flatMap variableNames) ∧
    Answered stack ls r.found r.missing
  filled : r.missing = [] → t.Filled stack (TextFilled stack) r.value

namespace Template

variable {stack : ScopeStack} {t : Template}

/-- As many records as references. -/
theorem Replaced.length_eq {r : Replacement Template} (h : t.Replaced stack r) :
    r.found.length + r.missing.length = (t.strings.flatMap variableNames).length := by
  obtain ⟨ls, hperm, hanswered⟩ := h.answered
  rw [hanswered.length_eq, ← hperm.length_eq, List.length_map]

/-- The names in a template are those of the leaves and those in its media type. -/
theorem names_strings (t : Template) : t.strings.flatMap variableNames
    = (t.leaves.flatMap Leaf.lookUps).map (·.name)
      ++ t.body.toList.flatMap fun b => variableNames b.mediaType := by
  unfold strings
  rw [List.flatMap_append, ← names_lookUps, List.flatMap_map (fun b : Body => b.mediaType)]

/-- **EVERY REFERENCE IS REPLACED OR REPORTED** exactly when the media type has none. -/
theorem replaced_substituteTemplate : t.Replaced stack (substituteTemplate t stack) ↔
    ∀ b ∈ t.body, variableNames b.mediaType = [] := by
  have hmedia : t.body.toList.flatMap (fun b => variableNames b.mediaType) = [] ↔
      ∀ b ∈ t.body, variableNames b.mediaType = [] := by
    simp only [List.flatMap_eq_nil_iff, Option.mem_toList, Option.mem_def]
  constructor
  · intro h
    -- the records are as many as the references outside the media type
    have hall := h.length_eq
    rw [(substituteTemplate_answered stack t).length_eq, names_strings, List.length_append,
      List.length_map] at hall
    refine hmedia.mp (List.eq_nil_of_length_eq_zero ?_)
    omega
  · intro hnone
    refine ⟨⟨t.leaves.flatMap Leaf.lookUps, ?_, substituteTemplate_answered stack t⟩, fun _ => ?_⟩
    · rw [names_strings, hmedia.mpr hnone, List.append_nil]
    · exact (substituteTemplate_filled stack t).of_kept fun b hb =>
        textFilled_of_no_names (hnone b hb)

end Template

/-- **THE REFERENCES OF A REQUEST TEMPLATE.**  Those outside the media type are each answered by
one record, and the strings there are filled.  Where nothing is missing each of their names has a
value, so that nothing is left but a reference in the media type, which is passed on as it is
written and is in no record. -/
theorem substituteTemplate_replaces (t : Template) (stack : ScopeStack) :
    Answered stack (t.leaves.flatMap Leaf.lookUps) (substituteTemplate t stack).found
      (substituteTemplate t stack).missing ∧
    t.Filled stack (· = ·) (substituteTemplate t stack).value ∧
    ((substituteTemplate t stack).missing = [] →
      ∀ l ∈ t.leaves, ∀ name ∈ variableNames l.text, ∃ v scope, stack.Innermost name v scope) ∧
    (t.Replaced stack (substituteTemplate t stack) ↔
      ∀ b ∈ t.body, variableNames b.mediaType = []) := by
  have hanswered := substituteTemplate_answered stack t
  refine ⟨hanswered, substituteTemplate_filled stack t, ?_, Template.replaced_substituteTemplate⟩
  intro hmissing l hl name hname
  rw [hmissing] at hanswered
  exact hanswered.all_found (List.mem_flatMap.mpr ⟨l, hl, List.mem_map.mpr ⟨name, hname, rfl⟩⟩)

/-- The media type of the body is a reference. -/
def typeReference : Template :=
  ⟨none, none, ⟨.empty, .empty, .empty, .empty⟩, some ⟨"\x7b\x7btype\x7d\x7d", .null⟩⟩

/-- The reference is neither found nor missing, whether it has a value or not. -/
theorem not_replaced_typeReference :
    ¬ typeReference.Replaced [] (substituteTemplate typeReference []) ∧
    ¬ typeReference.Replaced [.ofVariables "e" (.insert .empty "type" (.string "text/plain"))]
      (substituteTemplate typeReference
        [.ofVariables "e" (.insert .empty "type" (.string "text/plain"))]) := by
  have hnames : typeReference.strings.flatMap variableNames = ["type"] := by cbv
  constructor
  · intro h
    have hlength := h.length_eq
    rw [hnames] at hlength
    cases hlength
  · intro h
    have hlength := h.length_eq
    rw [hnames] at hlength
    cases hlength

end ApiPlaybook
