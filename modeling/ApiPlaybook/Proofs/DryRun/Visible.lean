/-
  ApiPlaybook.Proofs.DryRun.Visible
  ─────────────────────────────────
  **WHICH NAMES CAN BE SEEN.**

  Which look-ups of a substitution give nothing depends on the names that can be
  seen, not on their values.  So in a stack that shows at least the names of
  another one (`Covers`) the same names are looked up, and those that are missing
  are those that were missing there, less the ones that can be seen now
  (`Replacement.Narrows`): whatever is complete there is complete here too.  And
  after a mock reply every variable is set that the same rules may set after a
  response (`Responses.extract_covers`).
-/
import ApiPlaybook.Proofs.Extraction.Chains
import ApiPlaybook.Proofs.Template.LookUps

namespace ApiPlaybook

/-! ## §1. Names in maps and stacks. -/

/-- A name is found among entries that have it. -/
theorem findEntry_isSome {α : Type} {name : String} {entries : List (String × α)} :
    (findEntry name entries).isSome ↔ name ∈ entries.map (·.1) := by
  induction entries with
  | nil => simp [findEntry]
  | cons head rest ih =>
    obtain ⟨n, v⟩ := head
    rw [findEntry, List.map_cons, List.mem_cons]
    by_cases h : name = n
    · simp [h]
    · rw [if_neg h, ih]
      simp [h]

/-- A map has a value for the names it lists. -/
theorem NameMap.get?_isSome {α : Type} {m : NameMap α} {name : String} :
    (m.get? name).isSome ↔ name ∈ m.names := findEntry_isSome

namespace ScopeStack

/-- Some scope of the stack has a value for the name. -/
def Sees (stack : ScopeStack) (name : String) : Prop :=
  ∃ scope ∈ stack, (scope.vars.get? name).isSome

/-- All names that the other stack sees. -/
def Covers (stack other : ScopeStack) : Prop := ∀ name, Sees other name → Sees stack name

/-- A name has a value in a stack that shows it. -/
theorem resolve?_isSome {stack : ScopeStack} {name : String} :
    (stack.resolve? name).isSome ↔ Sees stack name := by
  unfold resolve? Sees
  simp only [List.findSome?_isSome_iff, List.mem_reverse, Option.isSome_map]

theorem Covers.refl (stack : ScopeStack) : Covers stack stack := fun _ h => h

theorem Covers.append {stack stack' other other' : ScopeStack} (h : Covers stack other)
    (h' : Covers stack' other') : Covers (stack ++ stack') (other ++ other') := by
  rintro name ⟨scope, hmem, hv⟩
  rcases List.mem_append.mp hmem with hmem | hmem
  · obtain ⟨scope', hmem', hv'⟩ := h name ⟨scope, hmem, hv⟩
    exact ⟨scope', List.mem_append_left stack' hmem', hv'⟩
  · obtain ⟨scope', hmem', hv'⟩ := h' name ⟨scope, hmem, hv⟩
    exact ⟨scope', List.mem_append_right stack hmem', hv'⟩

/-- Stacks of one scope. -/
theorem Covers.single {scope other : Scope}
    (h : ∀ name, (other.vars.get? name).isSome → (scope.vars.get? name).isSome) :
    Covers [scope] [other] := by
  rintro name ⟨s, hmem, hv⟩
  cases List.mem_singleton.mp hmem
  exact ⟨scope, List.mem_singleton_self scope, h name hv⟩

end ScopeStack

/-! ## §2. Look-ups of names that can be seen. -/

instance (stack : ScopeStack) (name : String) : Decidable (stack.Sees name) :=
  inferInstanceAs (Decidable (∃ scope ∈ stack, (scope.vars.get? name).isSome))

/-- The record of a look-up that gives nothing. -/
def LookUp.unanswered (l : LookUp) : MissingVariable := ⟨l.name, l.location⟩

/-- A look-up misses its name exactly when the stack does not show it. -/
theorem LookUp.missing_result (stack : ScopeStack) (l : LookUp) :
    (l.result stack).missing = if stack.Sees l.name then [] else [l.unanswered] := by
  unfold LookUp.result lookUp
  rw [← if_congr ScopeStack.resolve?_isSome rfl rfl]
  cases stack.resolve? l.name with
  | some found => rfl
  | none => rfl

/-- And it finds it exactly when the stack does. -/
theorem LookUp.names_found_result (stack : ScopeStack) (l : LookUp) :
    (l.result stack).found.map (·.name) = if stack.Sees l.name then [l.name] else [] := by
  unfold LookUp.result lookUp
  rw [← if_congr ScopeStack.resolve?_isSome rfl rfl]
  cases stack.resolve? l.name with
  | some found => rfl
  | none => rfl

namespace Replacement

variable {α β γ δ : Type}

/-- All names that were looked up: those with a value, then those without one. -/
def names (r : Replacement α) : List String :=
  r.found.map (·.name) ++ r.missing.map (·.name)

/-- Complete whenever the other one is. -/
def Covers (r : Replacement α) (other : Replacement β) : Prop :=
  other.missing = [] → r.missing = []

namespace Makes

variable {stack : ScopeStack} {ls : List LookUp} {r : Replacement α}

/-- The look-ups of names that cannot be seen are recorded as missing, in their order. -/
theorem missing_eq_map (h : r.Makes stack ls) :
    r.missing = (ls.filter fun l => ¬ stack.Sees l.name).map (·.unanswered) := by
  rw [h.missing]
  clear h
  induction ls with
  | nil => rfl
  | cons l ls ih =>
    rw [List.flatMap_cons, ih, l.missing_result]
    by_cases hl : stack.Sees l.name <;> simp [hl]

/-- What is found are the look-ups whose names can be seen, in their order. -/
theorem names_found_eq_map (h : r.Makes stack ls) :
    r.found.map (·.name) = (ls.filter fun l => stack.Sees l.name).map (·.name) := by
  rw [h.found, List.map_flatMap]
  clear h
  induction ls with
  | nil => rfl
  | cons l ls ih =>
    rw [List.flatMap_cons, ih, l.names_found_result]
    by_cases hl : stack.Sees l.name <;> simp [hl]

/-- Each look-up is recorded once, wherever it is found. -/
theorem names_perm (h : r.Makes stack ls) : r.names.Perm (ls.map (·.name)) := by
  -- names that can be seen are found, the others are missing
  have hsplit := (List.filter_append_perm (fun l => decide (stack.Sees l.name)) ls).map (·.name)
  unfold names
  rw [h.names_found_eq_map, h.missing_eq_map, List.map_map]
  rw [List.map_append] at hsplit
  simpa [Function.comp_def, LookUp.unanswered] using hsplit

end Makes

/-- What the first result lacks, less the names that can be seen in a stack, is what the second one
lacks; and both have looked up the same names, each as often. -/
structure Narrows (seen : ScopeStack) (r : Replacement α) (r' : Replacement β) : Prop where
  missing : r'.missing = r.missing.filter fun m => ¬ seen.Sees m.name
  names : r'.names.Perm r.names

/-- The same look-ups, with more names to be seen. -/
theorem Makes.narrows {stack stack' seen : ScopeStack} {ls : List LookUp} {r : Replacement α}
    {r' : Replacement β} (h : r.Makes stack ls) (h' : r'.Makes stack' ls)
    (hs : ∀ name, stack'.Sees name ↔ stack.Sees name ∨ seen.Sees name) : r.Narrows seen r' := by
  refine ⟨?_, h'.names_perm.trans h.names_perm.symm⟩
  rw [h'.missing_eq_map, h.missing_eq_map, List.filter_map, List.filter_filter]
  congr 1
  refine List.filter_congr fun l _ => ?_
  simp [hs, LookUp.unanswered, Bool.and_comm]

namespace Narrows

variable {seen : ScopeStack} {r : Replacement α} {r' : Replacement β}

/-- Where nothing was missing, nothing is. -/
theorem covers (h : r.Narrows seen r') : r'.Covers r := by
  intro hmissing
  rw [h.missing, hmissing, List.filter_nil]

/-- The records of one result behind those of another. -/
theorem append {q : Replacement γ} {q' : Replacement δ} (h : r.Narrows seen r')
    (hq : q.Narrows seen q') {ε ζ : Type} (v : ε) (v' : ζ) :
    Narrows seen ⟨v, r.found ++ q.found, r.missing ++ q.missing⟩
      ⟨v', r'.found ++ q'.found, r'.missing ++ q'.missing⟩ := by
  constructor
  · dsimp only
    rw [h.missing, hq.missing, List.filter_append]
  · -- found ones now stand before missing ones of the other result, so it is counted
    have hnames := h.names
    have hnames' := hq.names
    unfold Replacement.names at hnames hnames' ⊢
    rw [List.perm_iff_count] at hnames hnames' ⊢
    intro name
    have hname := hnames name
    have hname' := hnames' name
    simp only [List.map_append, List.count_append] at hname hname' ⊢
    omega

end Narrows

end Replacement

/-! ## §3. Substitutions in which more names can be seen. -/

/-- The template of a payload, with all look-ups that were made for it. -/
def Payload.replacement (p : Payload) : Replacement Template := ⟨p.template, p.found, p.missing⟩

section Substitution

variable {stack other : ScopeStack}

/-- A name can be seen in either part of a stack. -/
theorem ScopeStack.sees_append {name : String} :
    Sees (stack ++ other) name ↔ Sees stack name ∨ Sees other name := by
  unfold Sees
  simp only [List.mem_append, or_and_right, exists_or]

/-- The names of a covered stack add nothing to those of the other. -/
theorem ScopeStack.Covers.sees_iff (h : Covers stack other) (name : String) :
    Sees stack name ↔ Sees other name ∨ Sees stack name :=
  (or_iff_right_of_imp (h name)).symm

/-- Scopes inside make no difference, if they set the same names. -/
theorem ScopeStack.Covers.sees_append_iff (h : Covers stack other) {inner inner' : ScopeStack}
    (hsame : ∀ name, Sees inner name ↔ Sees inner' name) (name : String) :
    Sees (stack ++ inner) name ↔ Sees (other ++ inner') name ∨ Sees stack name := by
  rw [sees_append, sees_append, hsame name]
  constructor
  · rintro (hname | hname)
    · exact .inr hname
    · exact .inl (.inr hname)
  · rintro ((hname | hname) | hname)
    · exact .inl (h name hname)
    · exact .inr hname
    · exact .inl hname

/-- The template of a credential misses fewer names in a stack that shows more. -/
theorem substituteCredential_narrows (h : ScopeStack.Covers stack other) (template : String) :
    (substituteCredential template other).Narrows stack (substituteCredential template stack) :=
  (substituteCredential_makes other template).narrows (substituteCredential_makes stack template)
    h.sees_iff

theorem substituteScope_narrows (h : ScopeStack.Covers stack other) (id : String)
    (vars : NameMap Json) :
    (substituteScope id vars other).Narrows stack (substituteScope id vars stack) :=
  (substituteScope_makes other id vars).narrows (substituteScope_makes stack id vars)
    h.sees_iff

theorem substituteTemplate_narrows (h : ScopeStack.Covers stack other) (t : Template) :
    (substituteTemplate t other).Narrows stack (substituteTemplate t stack) :=
  (substituteTemplate_makes other t).narrows (substituteTemplate_makes stack t)
    h.sees_iff

/-- In particular it is complete wherever it was complete before. -/
theorem substituteCredential_covers (h : ScopeStack.Covers stack other) (template : String) :
    (substituteCredential template stack).Covers (substituteCredential template other) :=
  (substituteCredential_narrows h template).covers

/-- A scope of substituted values sets the names it had before. -/
theorem substituteScope_sees (id : String) (vars : NameMap Json) (stack : ScopeStack)
    (name : String) :
    ScopeStack.Sees [(substituteScope id vars stack).value] name ↔ name ∈ vars.names := by
  have hnames : (substituteScope id vars stack).value.vars.names = vars.names :=
    substituteMembers_names stack ("/" ++ id) vars.entries
  unfold ScopeStack.Sees
  rw [← hnames, ← NameMap.get?_isSome]
  simp only [List.mem_singleton, exists_eq_left]

/-- The payload of a stage in the larger stack. -/
theorem Stage.payload_narrows (h : ScopeStack.Covers stack other) (s : Stage)
    (request : Request) : (s.payload request other).replacement.Narrows stack
      (s.payload request stack).replacement := by
  have hscope (id : String) (vars : NameMap Json) (a b : ScopeStack) (name : String) :
      ScopeStack.Sees [(substituteScope id vars a).value] name ↔
        ScopeStack.Sees [(substituteScope id vars b).value] name := by
    rw [substituteScope_sees, substituteScope_sees]
  -- the variables of the stage, those of the request, the template: each sees those before
  refine ((substituteScope_narrows h _ _).append (Replacement.Makes.narrows
    (substituteScope_makes _ _ _) (substituteScope_makes _ _ _) ?_) () ()).append
    (Replacement.Makes.narrows (substituteTemplate_makes _ _) (substituteTemplate_makes _ _) ?_) _ _
  · exact h.sees_append_iff (hscope stageScopeId s.vars stack other)
  · simp only [List.append_assoc]
    refine h.sees_append_iff fun name => ?_
    rw [ScopeStack.sees_append, ScopeStack.sees_append, hscope stageScopeId s.vars stack other,
      hscope requestScopeId request.vars]

/-- It is complete where the payload in the smaller one is. -/
theorem Stage.payload_covers (h : ScopeStack.Covers stack other) (s : Stage) (request : Request) :
    (s.payload request other).missing = [] → (s.payload request stack).missing = [] :=
  (s.payload_narrows h request).covers

end Substitution

/-! ## §4. Variables that rules set. -/

/-- An assignment sets one name and leaves the others as they are. -/
theorem Scope.assign_get?_isSome (s : Scope) (name : String) (value : Json) (other : String) :
    ((s.assign name value).vars.get? other).isSome ↔
      other = name ∨ (s.vars.get? other).isSome := by
  unfold Scope.assign
  rw [NameMap.get?_insert]
  by_cases h : other = name
  · simp [h]
  · simp [h]

/-- Every name that is assigned, and what was there before. -/
theorem Scope.assignAll_get?_isSome (s : Scope) (made : List Assignment) (other : String) :
    ((s.assignAll made).vars.get? other).isSome ↔
      other ∈ made.map (·.name) ∨ (s.vars.get? other).isSome := by
  induction made generalizing s with
  | nil => simp [Scope.assignAll]
  | cons a rest ih =>
    show (((s.assign a.name a.value).assignAll rest).vars.get? other).isSome ↔ _
    rw [ih, Scope.assign_get?_isSome, List.map_cons, List.mem_cons, or_assoc, or_left_comm]

/-- **MOCK REPLIES SET ALL VARIABLES**: also those that the rules set after any other
reply, whatever was sent. -/
theorem Responses.extract_covers (rs : Responses) (id : String) (request request' : HttpRequest)
    {reply : Reply} {scope scope' : Scope} (h : rs.extract id request .mock = .ok scope)
    (h' : rs.extract id request' reply = .ok scope') : ScopeStack.Covers [scope] [scope'] := by
  obtain ⟨made, hmade, rfl⟩ := Responses.exists_assignAll_of_extract h'
  rw [Responses.extract_mock] at h
  cases h
  refine .single fun name hv => ?_
  rw [Scope.assignAll_get?_isSome] at hv ⊢
  exact hv.imp_left fun hname => rs.names_mockAssignments ▸ hmade hname

end ApiPlaybook
