/-
  ApiPlaybook.Proofs.Template.Missing
  ───────────────────────────────────
  **NAMES WITHOUT A VALUE.**

  A substitution records what it could not replace, and a stage stops where that
  is not nothing.

      More names to be seen take from the missing ones just those names, whatever
      the values are (`narrows_of_covers`).
      A reference has a name that is not empty (`IsReferenceName`), so the text in
      which the missing names are told is empty only where nothing is missing
      (`missingNamesText_eq_empty`), and a stage may test either
      (`RequestRun.stopped_iff`).
-/
import ApiPlaybook.Proofs.DryRun.Visible
import ApiPlaybook.Proofs.Run.Rules
import ApiPlaybook.Proofs.Template.Requests

namespace ApiPlaybook

/-! ## §1. Names of references. -/

/-- A name that a reference can have. -/
structure IsReferenceName (name : String) : Prop where
  nonempty : name ≠ ""
  chars : ∀ c ∈ name.toList, isNameChar c = true

/-- What is read as a reference has a name of name characters, at least one. -/
theorem Reference.isReferenceName_of_at? {cs rest : List Char} {r : Reference}
    (h : Reference.at? cs = some (r, rest)) : IsReferenceName r.name := by
  obtain ⟨before, behind, hspelling, -⟩ := Reference.writes_of_at? h
  exact ⟨fun hempty => hspelling.nonempty (String.toList_eq_nil_iff.mpr hempty), hspelling.name⟩

theorem isReferenceName_of_mem_pieces {cs : List Char} {r : Reference}
    (h : .reference r ∈ pieces cs) : IsReferenceName r.name := by
  induction cs using pieces.induct with
  | case1 =>
    rw [pieces_nil] at h
    cases h
  | case2 c tail r' rest hat ih =>
    rw [pieces_of_reference hat] at h
    rcases List.mem_cons.mp h with h | h
    · cases h
      exact Reference.isReferenceName_of_at? hat
    · exact ih h
  | case3 c tail hat ih =>
    rw [pieces_of_char hat] at h
    rcases List.mem_cons.mp h with h | h
    · cases h
    · exact ih h

/-- All look-ups are for names of references. -/
def AreForReferences (ls : List LookUp) : Prop := ∀ l ∈ ls, IsReferenceName l.name

/-- The look-ups of a text are for its references. -/
theorem areForReferences_text (location s : String) :
    AreForReferences (textLookUps location s) := by
  intro l hl
  obtain ⟨name, hname, rfl⟩ := List.mem_map.mp hl
  obtain ⟨p, hp, hname⟩ := List.mem_filterMap.mp hname
  cases p with
  | char c => cases hname
  | reference r =>
    cases hname
    exact isReferenceName_of_mem_pieces hp

theorem areForReferences_leaves (leaves : List Leaf) :
    AreForReferences (leaves.flatMap Leaf.lookUps) := by
  intro l hl
  obtain ⟨leaf, -, hl⟩ := List.mem_flatMap.mp hl
  exact areForReferences_text leaf.location leaf.text l hl

theorem areForReferences_scope (id : String) (vars : NameMap Json) :
    AreForReferences (scopeLookUps id vars) := by
  rw [scopeLookUps, memberLookUps_eq]
  exact areForReferences_leaves _

theorem areForReferences_template (t : Template) : AreForReferences t.lookUps := by
  rw [Template.lookUps_eq]
  exact areForReferences_leaves _

/-- All names that are missing are names of references. -/
def AreReferenceNames (missing : List MissingVariable) : Prop :=
  ∀ v ∈ missing, IsReferenceName v.name

/-- What is missing was looked up, so it has the name of a reference. -/
theorem Replacement.Makes.areReferenceNames {α : Type} {stack : ScopeStack} {ls : List LookUp}
    {r : Replacement α} (h : r.Makes stack ls) (hls : AreForReferences ls) :
    AreReferenceNames r.missing := by
  intro v hv
  rw [h.missing_eq_map] at hv
  obtain ⟨l, hl, rfl⟩ := List.mem_map.mp hv
  exact hls l (List.mem_filter.mp hl).1

theorem substituteCredential_areReferenceNames (template : String) (stack : ScopeStack) :
    AreReferenceNames (substituteCredential template stack).missing :=
  (substituteCredential_makes stack template).areReferenceNames (areForReferences_text _ _)

/-- What the values of a scope lack are names of references. -/
theorem substituteScope_areReferenceNames (id : String) (vars : NameMap Json)
    (stack : ScopeStack) : AreReferenceNames (substituteScope id vars stack).missing :=
  (substituteScope_makes stack id vars).areReferenceNames (areForReferences_scope id vars)

/-- So is what the template of a request lacks. -/
theorem substituteTemplate_areReferenceNames (t : Template) (stack : ScopeStack) :
    AreReferenceNames (substituteTemplate t stack).missing :=
  (substituteTemplate_makes stack t).areReferenceNames (areForReferences_template t)

/-- All that a payload lacks is missing from one of these. -/
theorem Stage.payload_areReferenceNames (s : Stage) (request : Request) (outer : ScopeStack) :
    AreReferenceNames (s.payload request outer).missing :=
  List.forall_mem_append.mpr ⟨List.forall_mem_append.mpr
    ⟨substituteScope_areReferenceNames _ _ _, substituteScope_areReferenceNames _ _ _⟩,
    substituteTemplate_areReferenceNames _ _⟩

/-! ## §2. The text of the missing names. -/

/-- The first name comes first. -/
theorem missingNames_cons (v : MissingVariable) (rest : List MissingVariable) :
    ∃ more, missingNames (v :: rest) = v.name :: more := by
  -- a name is only ever put behind those that are there
  have hkept (names acc : List String) : ∃ more,
      names.foldl (fun acc n => if acc.contains n then acc else acc ++ [n]) acc = acc ++ more := by
    induction names generalizing acc with
    | nil => exact ⟨[], (List.append_nil acc).symm⟩
    | cons n rest ih =>
      rw [List.foldl_cons]
      by_cases hn : acc.contains n
      · rw [if_pos hn]
        exact ih acc
      · obtain ⟨more, hmore⟩ := ih (acc ++ [n])
        rw [if_neg hn, hmore]
        exact ⟨n :: more, List.append_assoc ..⟩
  exact hkept (rest.map (·.name)) [v.name]

/-- Names that are not empty make a text that is not empty. -/
theorem missingNamesText_eq_empty {missing : List MissingVariable}
    (h : AreReferenceNames missing) : missingNamesText missing = "" ↔ missing = [] := by
  refine ⟨fun htext => ?_, fun hnone => by rw [hnone]; rfl⟩
  cases missing with
  | nil => rfl
  | cons v rest =>
    -- the text starts with the name of the first one
    obtain ⟨more, hmore⟩ := missingNames_cons v rest
    refine absurd ?_ (h v List.mem_cons_self).nonempty
    unfold missingNamesText at htext
    rw [hmore] at htext
    cases more with
    | nil => rwa [String.intercalate_singleton] at htext
    | cons n more =>
      rw [String.intercalate_cons_cons, String.append_assoc] at htext
      exact (String.append_eq_empty_iff.mp htext).1

section Stages

variable {c : Setup} {t : Transport} {playbook : String} {index : Nat} {s : Stage}
  {outer : ScopeStack} {request : Request} {credentials : AuthResult} {m : Moment}
  {o : Outcome ScopeStack}

/-- A stage stops for missing names exactly where their text is not empty, and tells that text. -/
theorem RequestRun.stopped_iff
    (h : RequestRun c t playbook index s outer request credentials m o) {names : String} :
    .prepareFailed (.variablesMissing names) ∈ o.trace ↔
      names = missingNamesText (s.payload request outer).missing ∧ names ≠ "" := by
  have hempty := missingNamesText_eq_empty (s.payload_areReferenceNames request outer)
  -- where nothing is missing the text is empty, and the stage goes on or stops for another cause
  have hcomplete (hn : (s.payload request outer).missing = []) :
      ¬ (names = missingNamesText (s.payload request outer).missing ∧ names ≠ "") :=
    fun ⟨htext, hne⟩ => hne (htext.trans (hempty.mpr hn))
  cases h with
  | variablesMissing hp hn =>
    subst hp
    constructor
    · intro hmem
      rcases List.mem_pair.mp hmem with hreport | hstop
      · cases hreport
      · cases hstop
        exact ⟨rfl, mt hempty.mp hn⟩
    · rintro ⟨rfl, -⟩
      exact .tail _ (.head _)
  | notBuilt hp hn => exact iff_of_false (by simp [Payload.report]) (hcomplete (hp ▸ hn))
  | notSent hp hn => exact iff_of_false (by simp [Payload.report]) (hcomplete (hp ▸ hn))
  | unexpected hp hn => exact iff_of_false (by simp [Payload.report]) (hcomplete (hp ▸ hn))
  | requestRulesFailed hp hn =>
    exact iff_of_false (by simp [Payload.report]) (hcomplete (hp ▸ hn))
  | stageRulesFailed hp hn => exact iff_of_false (by simp [Payload.report]) (hcomplete (hp ▸ hn))
  | done hp hn => exact iff_of_false (by simp [Payload.report]) (hcomplete (hp ▸ hn))

end Stages

/-! ## §3. Names that can be seen. -/

/-- The text of the missing names is empty exactly where nothing is missing. -/
def Replacement.IsTold {α : Type} (r : Replacement α) : Prop :=
  missingNamesText r.missing = "" ↔ r.missing = []

/-- **WHAT IS MISSING DEPENDS ON THE NAMES THAT CAN BE SEEN.**  A stack that shows all names of
another one takes from the missing names those that it shows, and no others; and whatever values
the two hold, the same names are looked up.  The text of the missing names is empty only where
nothing is missing, and a stage stops for them exactly where it is not. -/
theorem narrows_of_covers {stack other : ScopeStack} (h : other.Covers stack) :
    (∀ t : Template, (substituteTemplate t stack).Narrows other (substituteTemplate t other) ∧
      (substituteTemplate t stack).IsTold) ∧
    (∀ (id : String) (vars : NameMap Json),
      (substituteScope id vars stack).Narrows other (substituteScope id vars other) ∧
        (substituteScope id vars stack).IsTold) ∧
    (∀ template : String,
      (substituteCredential template stack).Narrows other (substituteCredential template other) ∧
        (substituteCredential template stack).IsTold) ∧
    ∀ (s : Stage) (request : Request),
      (s.payload request stack).replacement.Narrows other (s.payload request other).replacement ∧
        (s.payload request stack).replacement.IsTold ∧
        ∀ (c : Setup) (t : Transport) (playbook : String) (index : Nat) (credentials : AuthResult)
          (m : Moment) (names : String),
          .prepareFailed (.variablesMissing names) ∈
              ((c.deliver playbook index s stack request credentials).outcome t m).trace ↔
            names = missingNamesText (s.payload request stack).missing ∧ names ≠ "" := by
  refine ⟨fun t => ⟨substituteTemplate_narrows h t, ?_⟩,
    fun id vars => ⟨substituteScope_narrows h id vars, ?_⟩,
    fun template => ⟨substituteCredential_narrows h template, ?_⟩,
    fun s request => ⟨s.payload_narrows h request, ?_, ?_⟩⟩
  · exact missingNamesText_eq_empty (substituteTemplate_areReferenceNames t stack)
  · exact missingNamesText_eq_empty (substituteScope_areReferenceNames id vars stack)
  · exact missingNamesText_eq_empty (substituteCredential_areReferenceNames template stack)
  · exact missingNamesText_eq_empty (s.payload_areReferenceNames request stack)
  · intro c t playbook index credentials m names
    exact (requestRun_deliver c t playbook index s stack request credentials m).stopped_iff

/-- A template with references in its URL and inside its body. -/
def itemTemplate : Template :=
  ⟨some "\x7b\x7b base \x7d\x7d/\x7b\x7bid\x7d\x7d", none, ⟨.empty, .empty, .empty, .empty⟩,
    some ⟨"application/json", .object [("k", .array
      [.string "\x7b\x7btoken\x7d\x7d \x7b\x7bid\x7d\x7d", .string "\x7b\x7bbase\x7d\x7d"])]⟩⟩

def baseScope : Scope := .ofVariables "e" (.ofList [("base", .string "http://[::1]")])

/-- The same name with another value, which reads as a reference. -/
def otherBaseScope : Scope := .ofVariables "e" (.ofList [("base", .string "\x7b\x7btoken\x7d\x7d")])

def itemScope : Scope := .ofVariables "run" (.ofList [("id", .null)])

/-- Of the names that are missing at first, those that the larger stack shows are found. -/
theorem narrows_of_covers_itemTemplate :
    ScopeStack.Covers [otherBaseScope, itemScope] [baseScope] ∧
    (substituteTemplate itemTemplate [baseScope]).missing
      = [⟨"id", "/url"⟩, ⟨"token", "/body/k/0"⟩, ⟨"id", "/body/k/0"⟩] ∧
    (substituteTemplate itemTemplate [otherBaseScope, itemScope]).missing
      = [⟨"token", "/body/k/0"⟩] := by
  have hcovers : ScopeStack.Covers ([otherBaseScope] ++ [itemScope]) ([baseScope] ++ []) := by
    refine .append (.single fun name hname => ?_) fun _ ⟨_, hmem, _⟩ => absurd hmem List.not_mem_nil
    rw [NameMap.get?_isSome] at hname ⊢
    exact hname
  have hfirst : (substituteTemplate itemTemplate [baseScope]).missing
      = [⟨"id", "/url"⟩, ⟨"token", "/body/k/0"⟩, ⟨"id", "/body/k/0"⟩] := by cbv
  have hnarrows := ((narrows_of_covers hcovers).1 itemTemplate).1
  refine ⟨hcovers, hfirst, hnarrows.missing.trans ?_⟩
  rw [List.append_nil, hfirst]
  decide

end ApiPlaybook
