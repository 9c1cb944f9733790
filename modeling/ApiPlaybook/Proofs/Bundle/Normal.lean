/-
  ApiPlaybook.Proofs.Bundle.Normal
  ────────────────────────────────
  **BUNDLES ARE READ IN NORMAL FORM.**

  What readers need of a kind of document is said once (`Source.Lawful`): parts
  of a fit place are fit, free values have their members in name order, and what
  may be null and is not has an allowed free value.  Every reader keeps a
  property of its results through lists, maps and records (`Yields`), so a
  bundle read out of a fit place is normal (`Source.Lawful.bundle`), whatever
  the format.

  In JSON texts every place is fit, and what is no null has no null as its free
  value (`Draft.lawful`).
-/
import Mathlib.Data.List.DropRight
import ApiPlaybook.Proofs.Bundle.RoundTrip

namespace ApiPlaybook

/-! ## §1. Response codes. -/

/-- The code point of the lower case: only the 26 capital letters are moved. -/
theorem toNat_toLower (c : Char) :
    c.toLower.toNat = if 65 ≤ c.toNat ∧ c.toNat ≤ 90 then c.toNat + 32 else c.toNat := by
  unfold Char.toLower
  split
  · -- the sum of the codes does not overflow
    next h =>
    have hlow : 65 ≤ c.toNat := UInt32.le_iff_toNat_le.mp h.1
    have hhigh : c.toNat ≤ 90 := UInt32.le_iff_toNat_le.mp h.2
    have hshift : ('a'.val - 'A'.val).toNat = 32 := rfl
    have hc : c.val.toNat = c.toNat := rfl
    rw [if_pos ⟨hlow, hhigh⟩]
    show (c.val + ('a'.val - 'A'.val)).toNat = c.toNat + 32
    rw [UInt32.toNat_add]
    omega
  · next h =>
    rw [if_neg]
    rintro ⟨hlow, hhigh⟩
    exact h ⟨UInt32.le_iff_toNat_le.mpr hlow, UInt32.le_iff_toNat_le.mpr hhigh⟩

/-- Lower case has no capital letters left. -/
theorem toLower_toLower (c : Char) : c.toLower.toLower = c.toLower := by
  apply Char.toNat_inj.mp
  rw [toNat_toLower, if_neg]
  rw [toNat_toLower]
  split <;> omega

theorem lowerAscii_lowerAscii (s : String) : lowerAscii (lowerAscii s) = lowerAscii s := by
  have hlower : Char.toLower ∘ Char.toLower = Char.toLower := funext toLower_toLower
  apply String.toList_inj.mp
  simp only [lowerAscii, String.toList_map, List.map_map, hlower]

/-- Visible ASCII characters are no blanks. -/
theorem isBlank_eq_false {c : Char} (h : 0x20 < c.toNat) (h' : c.toNat < 0x85) :
    isBlank c = false := by
  simp [isBlank]
  omega

/-- Blanks are no letters, and no letter becomes a blank. -/
theorem isBlank_toLower (c : Char) : isBlank c.toLower = isBlank c := by
  have hlower := toNat_toLower c
  by_cases h : 65 ≤ c.toNat ∧ c.toNat ≤ 90
  · have hc : isBlank c = false := isBlank_eq_false (by omega) (by omega)
    rw [if_pos h] at hlower
    rw [hc, isBlank_eq_false (by omega) (by omega)]
  · rw [if_neg h] at hlower
    rw [Char.toNat_inj.mp hlower]

/-- It does not matter whether a text is trimmed or put in lower case first. -/
theorem trimStart_map_toLower (cs : List Char) :
    trimStart (cs.map Char.toLower) = (trimStart cs).map Char.toLower := by
  have hblank : isBlank ∘ Char.toLower = isBlank := funext isBlank_toLower
  unfold trimStart
  rw [List.dropWhile_map, hblank]

theorem trimEnd_map_toLower (cs : List Char) :
    trimEnd (cs.map Char.toLower) = (trimEnd cs).map Char.toLower := by
  show (trimStart (cs.map Char.toLower).reverse).reverse
    = (trimStart cs.reverse).reverse.map Char.toLower
  rw [← List.map_reverse, trimStart_map_toLower, List.map_reverse]

/-- Blanks that were removed in front do not come back behind. -/
theorem trimStart_trimmed (cs : List Char) :
    trimStart (trimEnd (trimStart cs)) = trimEnd (trimStart cs) := by
  -- only the first character counts, and trimming behind leaves it
  refine List.dropWhile_eq_self_iff.mpr fun hlen => ?_
  have hstart : trimStart (trimStart cs) = trimStart cs := List.dropWhile_idempotent _ _
  obtain ⟨rest, hrest⟩ : trimEnd (trimStart cs) <+: trimStart cs := List.rdropWhile_prefix _ _
  have hfirst : (trimStart cs)[0]? = some (trimEnd (trimStart cs))[0] := by
    rw [← List.getElem?_eq_getElem hlen, ← List.getElem?_append_left hlen, hrest]
  obtain ⟨h0, hfirst⟩ := List.getElem?_eq_some_iff.mp hfirst
  rw [← hfirst]
  exact List.dropWhile_eq_self_iff.mp hstart h0

/-- The normal form of a code, character by character. -/
theorem toList_normalCode (s : String) :
    (normalCode s).toList = (trimEnd (trimStart s.toList)).map Char.toLower := by
  simp [normalCode, lowerAscii, trimBlanks]

/-- A code that was made normal is normal. -/
theorem normalCode_normalCode (s : String) : normalCode (normalCode s) = normalCode s := by
  have hend : trimEnd (trimEnd (trimStart s.toList)) = trimEnd (trimStart s.toList) :=
    List.rdropWhile_idempotent _ _
  have hlower : Char.toLower ∘ Char.toLower = Char.toLower := funext toLower_toLower
  apply String.toList_inj.mp
  rw [toList_normalCode, toList_normalCode, trimStart_map_toLower, trimStart_trimmed,
    trimEnd_map_toLower, hend, List.map_map, hlower]

/-- An empty code is in normal form. -/
theorem normalCode_empty : normalCode "" = "" := by
  apply String.toList_inj.mp
  rw [toList_normalCode]
  rfl

/-- The digits of a status are normal. -/
theorem normalCode_decimal (n : Nat) : normalCode (decimal n) = decimal n := by
  have hdigit : ∀ c ∈ Nat.toDigits 10 n, 48 ≤ c.toNat ∧ c.toNat ≤ 57 := fun c hc =>
    Char.isDigit_iff_toNat.mp (Nat.isDigit_of_mem_toDigits (by decide) (by decide) hc)
  -- there is nothing to trim, as no digit is a blank
  have hblank : ∀ c ∈ Nat.toDigits 10 n, ¬ isBlank c = true := by
    intro c hc
    have hrange := hdigit c hc
    rw [isBlank_eq_false (by omega) (by omega)]
    exact Bool.false_ne_true
  have hstart : trimStart (Nat.toDigits 10 n) = Nat.toDigits 10 n :=
    List.dropWhile_eq_self_iff.mpr fun hlen => hblank _ (List.getElem_mem hlen)
  have hend : trimEnd (Nat.toDigits 10 n) = Nat.toDigits 10 n :=
    List.rdropWhile_eq_self_iff.mpr fun hne => hblank _ (List.getLast_mem hne)
  -- and nothing to write in lower case
  have hlower : (Nat.toDigits 10 n).map Char.toLower = (Nat.toDigits 10 n).map id := by
    refine List.map_congr_left fun c hc => ?_
    have hrange := hdigit c hc
    apply Char.toNat_inj.mp
    rw [toNat_toLower, if_neg (by omega), id]
  apply String.toList_inj.mp
  rw [toList_normalCode, decimal, String.toList_ofList, hstart, hend, hlower, List.map_id]

/-! ## §2. Properties that readers keep. -/

variable {σ α ρ : Type}

/-- What a kind of document promises of its fit places. -/
structure Source.Lawful (σ : Type) [Source σ] (Fit : σ → Prop) (Allowed : Json → Prop) :
    Prop where
  optional {x y : σ} : Fit x → Source.optional x = .ok (some y) →
    Fit y ∧ ∀ j, Source.free y = .ok j → Allowed j
  series {x : σ} {s : Series σ} : Fit x → Source.series x = .ok s → ∀ y ∈ s.items, Fit y
  members {x : σ} {expected : String} {ms : Members σ} : Fit x →
    Source.members expected x = .ok ms → ∀ e ∈ ms.entries, Fit e.2
  recordMembers {x : σ} {expected : String} {ms : Members σ} : Fit x →
    Source.record expected x = .ok (.inl ms) → ∀ e ∈ ms.entries, Fit e.2
  recordSeries {x : σ} {expected : String} {s : Series σ} : Fit x →
    Source.record expected x = .ok (.inr s) → ∀ y ∈ s.items, Fit y
  free {x : σ} {j : Json} : Fit x → Source.free x = .ok j → j.IsOrdered

/-- Whatever is read out of a fit place has the property. -/
def Yields (Fit : σ → Prop) (read : σ → Except DecodeError α) (P : α → Prop) : Prop :=
  ∀ x v, Fit x → read x = .ok v → P v

/-- A member that is read out of a fit place leaves the property to the record. -/
def Member.Keeps (Fit : σ → Prop) (f : Member σ ρ) (P : ρ → Prop) : Prop :=
  ∀ x r s, Fit x → P r → f.read x r = .ok s → P s

/-- One reader after another succeeds when both do. -/
theorem exists_of_bind_eq_ok {ε β : Type} {e : Except ε α} {f : α → Except ε β} {b : β}
    (h : (e >>= f) = .ok b) : ∃ a, e = .ok a ∧ f a = .ok b := by
  cases e with
  | error e => cases h
  | ok a => exact ⟨a, rfl, h⟩

variable {Fit : σ → Prop}

/-- Of what is read nothing need be asked. -/
theorem Yields.any {read : σ → Except DecodeError α} : Yields Fit read fun _ => True :=
  fun _ _ _ _ => trivial

/-- A field keeps a property of the record if what it reads fits and putting it keeps the property.
-/
theorem Member.Keeps.setting {name : String} {required : Bool}
    {read : σ → Except DecodeError α} {put : ρ → α → ρ} {P : ρ → Prop} {Q : α → Prop}
    (hread : Yields Fit read Q) (hput : ∀ r v, P r → Q v → P (put r v)) :
    (Member.setting name required read put).Keeps Fit P := by
  intro x r s hx hr h
  obtain ⟨v, hv, rfl⟩ := Member.setting_read_eq_ok.mp h
  exact hput r v hr (hread x v hx hv)

/-- Items that are read one by one. -/
theorem Yields.items {read : σ → Except DecodeError α} {P : α → Prop} (h : Yields Fit read P)
    {items : List σ} (hitems : ∀ y ∈ items, Fit y) {vs : List α}
    (hread : items.mapM read = .ok vs) : ∀ v ∈ vs, P v := by
  induction items generalizing vs with
  | nil =>
    cases hread
    exact nofun
  | cons item rest ih =>
    obtain ⟨hitem, hrest⟩ := List.forall_mem_cons.mp hitems
    rw [List.mapM_cons] at hread
    obtain ⟨v, hv, hread⟩ := exists_of_bind_eq_ok hread
    obtain ⟨vs', hvs, hread⟩ := exists_of_bind_eq_ok hread
    cases hread
    exact List.forall_mem_cons.mpr ⟨h item v hitem hv, ih hrest hvs⟩

/-- Entries that are read one by one. -/
theorem Yields.entries {read : σ → Except DecodeError α} {P : α → Prop} (h : Yields Fit read P)
    {entries : List (Except DecodeError String × σ)} (hentries : ∀ e ∈ entries, Fit e.2)
    {acc m : NameMap α} (hacc : acc.All P) (hread : readEntries read acc entries = .ok m) :
    m.All P := by
  induction entries generalizing acc with
  | nil =>
    cases hread
    exact hacc
  | cons e rest ih =>
    obtain ⟨he, hrest⟩ := List.forall_mem_cons.mp hentries
    rw [readEntries] at hread
    obtain ⟨name, -, hread⟩ := exists_of_bind_eq_ok hread
    obtain ⟨v, hv, hread⟩ := exists_of_bind_eq_ok hread
    refine ih hrest (fun e' he' => ?_) hread
    rcases mem_insertEntry he' with rfl | he'
    · exact h e.2 v he hv
    · exact hacc e' he'

/-- Along the named members of a text, a record keeps its property. -/
theorem readNamed_keeps [Source σ] {fields : List (Member σ ρ)} {P : ρ → Prop}
    (hfields : ∀ f ∈ fields, f.Keeps Fit P) {close : Except DecodeError Unit}
    {entries : List (Except DecodeError String × σ)} (hentries : ∀ e ∈ entries, Fit e.2)
    {seen : List String} {r s : ρ} (hr : P r)
    (hread : readNamed fields close seen r entries = .ok s) : P s := by
  induction entries generalizing seen r with
  | nil =>
    obtain ⟨-, -, hread⟩ := exists_of_bind_eq_ok hread
    split at hread
    · cases hread
    · cases hread
      exact hr
  | cons e rest ih =>
    obtain ⟨he, hrest⟩ := List.forall_mem_cons.mp hentries
    rw [readNamed] at hread
    obtain ⟨name, -, hread⟩ := exists_of_bind_eq_ok hread
    -- a member of no field is skipped, and leaves the record as it is
    split at hread
    · obtain ⟨-, -, hread⟩ := exists_of_bind_eq_ok hread
      exact ih hrest hr hread
    · next f hf =>
      split at hread
      · cases hread
      · obtain ⟨r', hr', hread⟩ := exists_of_bind_eq_ok hread
        exact ih hrest (hfields f (List.mem_of_find?_eq_some hf) e.2 r r' he hr hr') hread

/-- Along the items of a series that stands for a record, it does so too. -/
theorem readPositional_keeps {expected : String} {series : Series σ} {P : ρ → Prop}
    {fields : List (Member σ ρ)} (hfields : ∀ f ∈ fields, f.Keeps Fit P) {items : List σ}
    (hitems : ∀ y ∈ items, Fit y) {index : Nat} {r s : ρ} (hr : P r)
    (hread : readPositional expected series index r fields items = .ok s) : P s := by
  -- the fields are taken in their order, each with the next item if there is one
  induction fields generalizing items index r with
  | nil =>
    cases items <;>
    · obtain ⟨-, -, hread⟩ := exists_of_bind_eq_ok hread
      cases hread
      exact hr
  | cons f rest ih =>
    obtain ⟨hf, hrest⟩ := List.forall_mem_cons.mp hfields
    cases items with
    | nil =>
      obtain ⟨-, -, hread⟩ := exists_of_bind_eq_ok hread
      split at hread
      · cases hread
      · exact ih hrest hitems hr hread
    | cons y items =>
      obtain ⟨hy, hitems⟩ := List.forall_mem_cons.mp hitems
      obtain ⟨r', hr', hread⟩ := exists_of_bind_eq_ok hread
      exact ih hrest hitems (hf y r r' hy hr hr') hread

/-- An empty map has no value that could lack a property. -/
theorem NameMap.All.empty {P : α → Prop} : (NameMap.empty : NameMap α).All P :=
  fun _ he => absurd he List.not_mem_nil

/-- A response code is put in normal form when it is read. -/
theorem ResponseCode.decode_normal [Source σ] :
    Yields Fit ResponseCode.decode ResponseCode.IsNormal := by
  intro x c hx hread
  obtain ⟨j, -, hread⟩ := exists_of_bind_eq_ok hread
  split at hread
  · split at hread
    · cases hread
      exact normalCode_decimal _
    · cases hread
  · cases hread
    exact normalCode_normalCode _
  · cases hread

/-- The template that a reader starts with is normal. -/
theorem Template.blank_normal : Template.blank.IsNormal :=
  ⟨⟨.empty, .empty, .empty, .empty⟩, nofun⟩

section Lawful

variable [Source σ] {Allowed : Json → Prop} (hσ : Source.Lawful σ Fit Allowed)
include hσ

theorem Source.Lawful.list {read : σ → Except DecodeError α} {P : α → Prop}
    (h : Yields Fit read P) : Yields Fit (readList read) fun vs => ∀ v ∈ vs, P v := by
  intro x vs hx hread
  obtain ⟨s, hs, hread⟩ := exists_of_bind_eq_ok hread
  obtain ⟨vs', hvs, hread⟩ := exists_of_bind_eq_ok hread
  obtain ⟨-, -, hread⟩ := exists_of_bind_eq_ok hread
  cases hread
  exact h.items (hσ.series hx hs) hvs

theorem Source.Lawful.map {read : σ → Except DecodeError α} {P : α → Prop}
    (h : Yields Fit read P) : Yields Fit (readMap read) fun m => m.All P := by
  intro x m hx hread
  obtain ⟨ms, hms, hread⟩ := exists_of_bind_eq_ok hread
  obtain ⟨m', hm, hread⟩ := exists_of_bind_eq_ok hread
  obtain ⟨-, -, hread⟩ := exists_of_bind_eq_ok hread
  cases hread
  exact h.entries (hσ.members hx hms) (fun e he => absurd he List.not_mem_nil) hm

/-- A value that may be absent is read out of a fit place with an allowed free value. -/
theorem Source.Lawful.given {read : σ → Except DecodeError α} {P : α → Prop}
    (h : Yields (fun y => Fit y ∧ ∀ j, Source.free y = .ok j → Allowed j) read P) :
    Yields Fit (readOptional read) fun o => ∀ v ∈ o, P v := by
  intro x o hx hread
  obtain ⟨o', ho, hread⟩ := exists_of_bind_eq_ok hread
  cases o' with
  | none =>
    cases hread
    exact nofun
  | some y =>
    obtain ⟨v, hv, hread⟩ := exists_of_bind_eq_ok hread
    cases hread
    rintro _ ⟨⟩
    exact h y v (hσ.optional hx ho) hv

/-- A part that may be absent is normal where it is present. -/
theorem Source.Lawful.maybe {read : σ → Except DecodeError α} {P : α → Prop}
    (h : Yields Fit read P) : Yields Fit (readOptional read) fun o => ∀ v ∈ o, P v :=
  hσ.given fun y v hy hread => h y v hy.1 hread

/-- The values of a map of variables have their members in name order. -/
theorem Source.Lawful.values : Yields Fit readValues fun m => m.All Json.IsOrdered :=
  hσ.map fun _ _ hx => hσ.free hx

/-- A property of the record read so far, kept by every member, is one of the whole record. -/
theorem Source.Lawful.record {name : String} {fields : List (Member σ ρ)} {start : ρ} {P : ρ → Prop}
    (hstart : P start) (hfields : ∀ f ∈ fields, f.Keeps Fit P) :
    Yields Fit (readRecord name fields start) P := by
  intro x v hx hread
  obtain ⟨parts, hparts, hread⟩ := exists_of_bind_eq_ok hread
  cases parts with
  | inl ms => exact readNamed_keeps hfields (hσ.recordMembers hx hparts) hstart hread
  | inr s => exact readPositional_keeps hfields (hσ.recordSeries hx hparts) hstart hread

/-! ## §3. Parts of a bundle. -/

/-- The parameters of a template are read in normal form. -/
theorem Source.Lawful.parameters : Yields Fit Parameters.decode Parameters.IsNormal := by
  refine hσ.record ⟨.empty, .empty, .empty, .empty⟩ ?_
  simp only [List.forall_mem_cons]
  exact ⟨.setting hσ.values fun _ _ hr hv => { hr with query := hv },
    .setting hσ.values fun _ _ hr hv => { hr with header := hv },
    .setting hσ.values fun _ _ hr hv => { hr with path := hv },
    .setting hσ.values fun _ _ hr hv => { hr with cookie := hv }, nofun⟩

theorem Source.Lawful.body : Yields Fit Body.decode Body.IsNormal := by
  refine hσ.record trivial ?_
  simp only [List.forall_mem_cons]
  exact ⟨.setting .any fun _ _ hr _ => hr,
    .setting (fun _ _ hx => hσ.free hx) fun _ _ _ hv => hv, nofun⟩

theorem Source.Lawful.template : Yields Fit Template.decode Template.IsNormal := by
  refine hσ.record Template.blank_normal ?_
  simp only [List.forall_mem_cons]
  exact ⟨.setting .any fun _ _ hr _ => ⟨hr.parameters, hr.body⟩,
    .setting .any fun _ _ hr _ => ⟨hr.parameters, hr.body⟩,
    .setting hσ.parameters fun _ _ hr hv => { hr with parameters := hv },
    .setting (hσ.maybe hσ.body) fun _ _ hr hv => { hr with body := hv }, nofun⟩

/-- A request is normal by its variables, its default response and its template. -/
theorem Source.Lawful.request : Yields Fit Request.decode Request.IsNormal := by
  refine hσ.record ⟨.empty, normalCode_empty, Template.blank_normal⟩ ?_
  simp only [List.forall_mem_cons]
  exact ⟨.setting .any fun _ _ hr _ => ⟨hr.vars, hr.defaultResponse, hr.template⟩,
    .setting hσ.values fun _ _ hr hv => { hr with vars := hv },
    .setting .any fun _ _ hr _ => ⟨hr.vars, hr.defaultResponse, hr.template⟩,
    .setting ResponseCode.decode_normal fun _ _ hr hv => { hr with defaultResponse := hv },
    .setting .any fun _ _ hr _ => ⟨hr.vars, hr.defaultResponse, hr.template⟩,
    .setting hσ.template fun _ _ hr hv => { hr with template := hv }, nofun⟩

/-- A stage is normal by its variables and by the status that it expects. -/
theorem Source.Lawful.stage : Yields Fit Stage.decode Stage.IsNormal := by
  refine hσ.record ⟨.empty, nofun⟩ ?_
  simp only [List.forall_mem_cons]
  exact ⟨.setting .any fun _ _ hr _ => ⟨hr.vars, hr.expected⟩,
    .setting hσ.values fun _ _ hr hv => { hr with vars := hv },
    .setting (hσ.maybe ResponseCode.decode_normal) fun _ _ hr hv => { hr with expected := hv },
    .setting .any fun _ _ hr _ => ⟨hr.vars, hr.expected⟩, nofun⟩

/-- A list of stages is normal stage by stage. -/
theorem Source.Lawful.stages : Yields Fit (readList Stage.decode) NormalStages := hσ.list hσ.stage

/-- A method is normal by its stages, if it has any. -/
theorem Source.Lawful.credentialMethod :
    Yields Fit CredentialMethod.decode CredentialMethod.IsNormal := by
  refine hσ.record nofun ?_
  simp only [List.forall_mem_cons]
  exact ⟨.setting .any fun _ _ hr _ => hr,
    .setting (hσ.maybe hσ.stages) fun _ _ _ hv => hv, nofun⟩

/-- A credential is normal by its methods. -/
theorem Source.Lawful.credential : Yields Fit Credential.decode Credential.IsNormal := by
  refine hσ.record .empty ?_
  simp only [List.forall_mem_cons]
  exact ⟨.setting .any fun _ _ hr _ => hr, .setting .any fun _ _ hr _ => hr,
    .setting .any fun _ _ hr _ => hr, .setting .any fun _ _ hr _ => hr,
    .setting (hσ.map hσ.credentialMethod) fun _ _ _ hv => hv, nofun⟩

/-- A variable is normal by its default, which is an allowed value. -/
theorem Source.Lawful.importedVariable :
    Yields Fit ImportedVariable.decode (ImportedVariable.IsNormal Allowed) := by
  have hdefault : Yields (fun y => Fit y ∧ ∀ j, Source.free y = .ok j → Allowed j) Source.free
      fun j => j.IsOrdered ∧ Allowed j :=
    fun y j hy hread => ⟨hσ.free hy.1 hread, hy.2 j hread⟩
  refine hσ.record nofun ?_
  simp only [List.forall_mem_cons]
  exact ⟨.setting .any fun _ _ hr _ => hr, .setting .any fun _ _ hr _ => hr,
    .setting (hσ.given hdefault) fun _ _ _ hv => hv, nofun⟩

/-- An environment is normal by its variables. -/
theorem Source.Lawful.environmentDecl :
    Yields Fit EnvironmentDecl.decode (EnvironmentDecl.IsNormal Allowed) := by
  refine hσ.record .empty ?_
  simp only [List.forall_mem_cons]
  exact ⟨.setting (hσ.map hσ.importedVariable) fun _ _ _ hv => hv, nofun⟩

/-- A scenario is normal by its stages. -/
theorem Source.Lawful.scenario : Yields Fit Scenario.decode Scenario.IsNormal := by
  refine hσ.record nofun ?_
  simp only [List.forall_mem_cons]
  exact ⟨.setting hσ.stages fun _ _ _ hv => hv, nofun⟩

/-- An operation is normal by its request, its stages and its scenarios. -/
theorem Source.Lawful.operation : Yields Fit Operation.decode Operation.IsNormal := by
  refine hσ.record ⟨⟨.empty, normalCode_empty, Template.blank_normal⟩, nofun, nofun, .empty⟩ ?_
  simp only [List.forall_mem_cons]
  exact ⟨.setting hσ.request fun _ _ hr hv => { hr with request := hv },
    .setting hσ.stages fun _ _ hr hv => { hr with before := hv },
    .setting hσ.stages fun _ _ hr hv => { hr with after := hv },
    .setting (hσ.map hσ.scenario) fun _ _ hr hv => { hr with scenarios := hv }, nofun⟩

/-- **A BUNDLE THAT WAS READ IS NORMAL.** -/
theorem Source.Lawful.bundle : Yields Fit Bundle.decode (Bundle.IsNormal Allowed) := by
  refine hσ.record ⟨.empty, .empty, nofun, nofun, nofun, .empty⟩ ?_
  simp only [List.forall_mem_cons]
  exact ⟨.setting (hσ.map hσ.operation) fun _ _ hr hv => { hr with operations := hv },
    .setting (hσ.map hσ.request) fun _ _ hr hv => { hr with requests := hv },
    .setting hσ.stages fun _ _ hr hv => { hr with before := hv },
    .setting hσ.stages fun _ _ hr hv => { hr with after := hv },
    .setting (hσ.list (hσ.map hσ.credential)) fun _ _ hr hv => { hr with credentialGroups := hv },
    .setting (hσ.map hσ.environmentDecl) fun _ _ hr hv => { hr with environments := hv },
    .setting .any fun _ _ hr _ =>
      ⟨hr.operations, hr.requests, hr.before, hr.after, hr.credentialGroups, hr.environments⟩,
    nofun⟩

end Lawful

/-! ## §4. JSON texts. -/

namespace Draft

mutual

/-- A free value has its members in name order. -/
theorem value_ordered (d : Draft) {j : Json} (h : d.value = .ok j) : j.IsOrdered := by
  match d with
  | .null | .bool _ | .number _ | .string _ =>
    cases h
    trivial
  | .flawed _ => cases h
  | .array deep items close =>
    rw [value] at h
    split at h
    · cases h
    · obtain ⟨vs, hvs, h⟩ := exists_of_bind_eq_ok h
      obtain ⟨-, -, h⟩ := exists_of_bind_eq_ok h
      cases h
      exact valueItems_ordered items hvs
  | .object deep members close =>
    rw [value] at h
    split at h
    · cases h
    · -- the members are inserted one by one, from none
      obtain ⟨ms, hms, h⟩ := exists_of_bind_eq_ok h
      obtain ⟨-, -, h⟩ := exists_of_bind_eq_ok h
      cases h
      exact valueMembers_ordered members List.Pairwise.nil trivial hms

/-- The items of an array are read one by one. -/
theorem valueItems_ordered (items : List Draft) {vs : List Json}
    (h : valueItems items = .ok vs) : Json.AllOrdered vs := by
  match items with
  | [] =>
    cases h
    trivial
  | item :: rest =>
    rw [valueItems] at h
    obtain ⟨v, hv, h⟩ := exists_of_bind_eq_ok h
    obtain ⟨vs', hvs, h⟩ := exists_of_bind_eq_ok h
    cases h
    exact ⟨value_ordered item hv, valueItems_ordered rest hvs⟩

/-- Each member of an object is put where its name belongs among those before it. -/
theorem valueMembers_ordered (members : List (Except Flaw String × Draft))
    {acc ms : List (String × Json)} (hacc : InNameOrder acc) (ho : Json.AllMembersOrdered acc)
    (h : valueMembers acc members = .ok ms) : (Json.object ms).IsOrdered := by
  match members with
  | [] =>
    cases h
    exact ⟨hacc, ho⟩
  | (key, item) :: rest =>
    rw [valueMembers] at h
    obtain ⟨name, -, h⟩ := exists_of_bind_eq_ok h
    obtain ⟨v, hv, h⟩ := exists_of_bind_eq_ok h
    exact valueMembers_ordered rest hacc.insertEntry (ho.insertEntry (value_ordered item hv)) h

end

/-- Only a null is read as a null. -/
theorem value_ne_null {d : Draft} (hd : d ≠ .null) : d.value ≠ .ok .null := by
  intro h
  -- only a null has a value that is null, and no flaw has a value
  cases d with
  | null => exact hd rfl
  | bool | number | string | flawed => cases h
  | array deep items close =>
    rw [value] at h
    split at h
    · cases h
    · obtain ⟨_, -, h⟩ := exists_of_bind_eq_ok h
      obtain ⟨-, -, h⟩ := exists_of_bind_eq_ok h
      cases h
  | object deep members close =>
    rw [value] at h
    split at h
    · cases h
    · obtain ⟨_, -, h⟩ := exists_of_bind_eq_ok h
      obtain ⟨-, -, h⟩ := exists_of_bind_eq_ok h
      cases h

/-- A free value is the value of the draft. -/
theorem free_eq_ok {d : Draft} {j : Json} :
    (Source.free d : Except DecodeError Json) = .ok j ↔ d.value = .ok j := by
  show asError d.value = .ok j ↔ d.value = .ok j
  cases d.value <;> simp [asError, Except.mapError]

/-- What may be null and is present is no null. -/
theorem optional_eq_some {d d' : Draft}
    (h : (Source.optional d : Except DecodeError (Option Draft)) = .ok (some d')) :
    d' ≠ .null := by
  cases d <;> cases h <;> exact nofun

/-- Every place of a JSON text is fit. -/
theorem lawful : Source.Lawful Draft (fun _ => True) (· ≠ .null) where
  optional _ h := by
    refine ⟨trivial, fun j hfree hnull => ?_⟩
    rw [hnull] at hfree
    exact value_ne_null (optional_eq_some h) (free_eq_ok.mp hfree)
  series _ _ _ _ := trivial
  members _ _ _ _ := trivial
  recordMembers _ _ _ _ := trivial
  recordSeries _ _ _ _ := trivial
  free _ h := value_ordered _ (free_eq_ok.mp h)

end Draft

end ApiPlaybook
