/-
  ApiPlaybook.Proofs.Extraction.Selection
  ───────────────────────────────────────
  **RULES ARE SELECTED BY THE CODES THAT ADMIT A STATUS.**

  Keys of response rules are free texts, and two ways lead from them to a
  status.  A response code is the key without blanks around it and in lower
  case, and admits a status by its digits or by those of its category.  The
  selection compares each key, without the blanks around it and up to case, with
  three texts in turn.

  Both make the same of a key, since the three texts are in lower case
  (`sameIgnoringCase_trimBlanks`).  So rules are selected exactly when the code
  of some key admits the status or some key reads `default`; they are those of
  the least key of the closest form (`Responses.select?_eq_some`).  And a code
  is made of its own text again, and read back from JSON as itself
  (`ResponseCode.selection_agrees`).
-/
import ApiPlaybook.Extraction
import ApiPlaybook.Proofs.Bundle.Normal
import ApiPlaybook.Proofs.DryRun.Visible

namespace ApiPlaybook

/-! ## §1. Normal forms of keys. -/

theorem lowerAscii_decimal (n : Nat) : lowerAscii (decimal n) = decimal n := by
  rw [← normalCode_decimal, normalCode, lowerAscii_lowerAscii]

/-- A category of responses is written in lower case. -/
theorem lowerAscii_statusCategory (status : Nat) :
    lowerAscii (statusCategory status) = statusCategory status := by
  have hcategory : lowerAscii (statusCategory status)
      = lowerAscii (decimal (status / 100)) ++ "xx" := by
    apply String.toList_inj.mp
    simp [statusCategory, lowerAscii, String.toList_map]
  rw [hcategory, lowerAscii_decimal, statusCategory]

theorem lowerAscii_default : lowerAscii "default" = "default" := by
  decide +kernel

/-- To compare a key up to case and blanks around it is to compare its code. -/
theorem sameIgnoringCase_trimBlanks {key code : String} (h : lowerAscii code = code) :
    sameIgnoringCase (trimBlanks key) code = true ↔ normalCode key = code := by
  rw [sameIgnoringCase, beq_iff_eq, h, normalCode]

namespace Responses

variable {rs : Responses} {status : Nat} {code key : String} {rules : ResponseRules}

/-! ## §2. Keys of one form. -/

/-- Some key has that normal form. -/
def HasForm (rs : Responses) (code : String) : Prop := ∃ key ∈ rs.names, normalCode key = code

/-- The rules stand under the least of the keys of that normal form. -/
structure IsLeast (rs : Responses) (code key : String) (rules : ResponseRules) : Prop where
  entry : rs.get? key = some rules
  form : normalCode key = code
  least : ∀ k ∈ rs.names, normalCode k = code → key ≤ k

/-- A least key of a form is one of that form. -/
theorem IsLeast.hasForm (h : rs.IsLeast code key rules) : rs.HasForm code :=
  ⟨key, NameMap.get?_isSome.mp (by rw [h.entry]; rfl), h.form⟩

/-- A key is found exactly when one has the form. -/
theorem findNormal?_isSome (hcode : lowerAscii code = code) :
    (rs.findNormal? code).isSome = true ↔ rs.HasForm code := by
  unfold findNormal? NameMap.find? HasForm NameMap.names
  simp only [Option.isSome_map, List.find?_isSome, sameIgnoringCase_trimBlanks hcode,
    List.mem_map]
  constructor
  · rintro ⟨entry, hentry, hform⟩
    exact ⟨entry.1, ⟨entry, hentry, rfl⟩, hform⟩
  · rintro ⟨_, ⟨entry, hentry, rfl⟩, hform⟩
    exact ⟨entry, hentry, hform⟩

/-- What is found first is least, since the keys stand in their order. -/
theorem exists_isLeast_of_findNormal? (hcode : lowerAscii code = code)
    (h : rs.findNormal? code = some rules) : ∃ key, rs.IsLeast code key rules := by
  obtain ⟨⟨key, rules⟩, hfound, rfl⟩ := Option.map_eq_some_iff.mp h
  obtain ⟨hform, before, after, hentries, hbefore⟩ := List.find?_eq_some_iff_append.mp hfound
  refine ⟨key, NameMap.mem_entries_iff.mp (hentries ▸ List.mem_append_right _ List.mem_cons_self),
    (sameIgnoringCase_trimBlanks hcode).mp hform, ?_⟩
  have horder := rs.inOrder
  rw [hentries] at horder
  have hbehind := (List.pairwise_cons.mp (List.pairwise_append.mp horder).2.1).1
  intro k hk hkform
  obtain ⟨entry, hentry, rfl⟩ := List.mem_map.mp hk
  rw [hentries] at hentry
  rcases List.mem_append.mp hentry with hentry | hentry
  · -- in front of it no key has this form
    have hother : (!sameIgnoringCase (trimBlanks entry.1) code) = true := hbefore entry hentry
    rw [(sameIgnoringCase_trimBlanks hcode).mpr hkform] at hother
    cases hother
  · rcases List.mem_cons.mp hentry with rfl | hentry
    · exact String.le_refl _
    · exact String.not_lt.mp (String.lt_asymm (hbehind entry hentry))

/-- There is one least key. -/
theorem IsLeast.unique {key' : String} {rules' : ResponseRules} (h : rs.IsLeast code key rules)
    (h' : rs.IsLeast code key' rules') : key = key' ∧ rules = rules' := by
  have hmem : key ∈ rs.names := NameMap.get?_isSome.mp (by rw [h.entry]; rfl)
  have hmem' : key' ∈ rs.names := NameMap.get?_isSome.mp (by rw [h'.entry]; rfl)
  have hkey : key = key' :=
    String.le_antisymm (h.least key' hmem' h'.form) (h'.least key hmem h.form)
  subst hkey
  exact ⟨rfl, Option.some.inj (h.entry.symm.trans h'.entry)⟩

/-- The rules that are found are those of the least key of the form. -/
theorem findNormal?_eq_some (hcode : lowerAscii code = code) :
    rs.findNormal? code = some rules ↔ ∃ key, rs.IsLeast code key rules := by
  refine ⟨exists_isLeast_of_findNormal? hcode, ?_⟩
  rintro ⟨key, hleast⟩
  obtain ⟨found, hfound⟩ := Option.isSome_iff_exists.mp
    ((findNormal?_isSome hcode).mpr hleast.hasForm)
  obtain ⟨key', hfirst⟩ := exists_isLeast_of_findNormal? hcode hfound
  rw [hfound, (hfirst.unique hleast).2]

/-! ## §3. The closest form. -/

/-- The form of key that decides for a status: its digits if a key has them, else its category if a
key has that, else `default`. -/
inductive Closest (rs : Responses) (status : Nat) : String → Prop
  | status (h : rs.HasForm (decimal status)) : Closest rs status (decimal status)
  | category (hstatus : ¬ rs.HasForm (decimal status))
    (h : rs.HasForm (statusCategory status)) : Closest rs status (statusCategory status)
  | default (hstatus : ¬ rs.HasForm (decimal status))
    (hcategory : ¬ rs.HasForm (statusCategory status)) (h : rs.HasForm "default") :
    Closest rs status "default"

/-- **THE ORDER OF PREFERENCE**: the status, then its category, then the default. -/
theorem select?_eq (rs : Responses) (status : Nat) :
    rs.select? status = (rs.findNormal? (decimal status)).or
      ((rs.findNormal? (statusCategory status)).or (rs.findNormal? "default")) := by
  unfold select? selectionKeys
  cases h : rs.findNormal? (decimal status) with
  | some rules => simp [h]
  | none =>
    cases h' : rs.findNormal? (statusCategory status) with
    | some rules => simp [h, h']
    | none => cases h'' : rs.findNormal? "default" <;> simp [h, h', h'']

/-- Nothing is found exactly when no key has the form. -/
theorem findNormal?_eq_none (hcode : lowerAscii code = code) :
    rs.findNormal? code = none ↔ ¬ rs.HasForm code := by
  rw [← findNormal?_isSome hcode]
  cases rs.findNormal? code <;> simp

/-- The closest form is written in lower case. -/
theorem Closest.lowerAscii (h : rs.Closest status code) : lowerAscii code = code := by
  cases h with
  | status => exact lowerAscii_decimal status
  | category => exact lowerAscii_statusCategory status
  | default => exact lowerAscii_default

/-- What is selected is found under the closest form. -/
theorem Closest.select?_eq (h : rs.Closest status code) :
    rs.select? status = rs.findNormal? code := by
  have hstatus := lowerAscii_decimal status
  have hcategory := lowerAscii_statusCategory status
  rw [Responses.select?_eq]
  cases h with
  | status h =>
    obtain ⟨rules, hrules⟩ := Option.isSome_iff_exists.mp ((findNormal?_isSome hstatus).mpr h)
    rw [hrules, Option.some_or]
  | category hnot h =>
    obtain ⟨rules, hrules⟩ := Option.isSome_iff_exists.mp ((findNormal?_isSome hcategory).mpr h)
    rw [(findNormal?_eq_none hstatus).mpr hnot, Option.none_or, hrules, Option.some_or]
  | default hnot hnot' _ =>
    rw [(findNormal?_eq_none hstatus).mpr hnot, Option.none_or,
      (findNormal?_eq_none hcategory).mpr hnot', Option.none_or]

/-- Rules are selected where some key has one of the three forms. -/
theorem select?_isSome : (rs.select? status).isSome = true ↔
    rs.HasForm (decimal status) ∨ rs.HasForm (statusCategory status) ∨ rs.HasForm "default" := by
  rw [select?_eq, Option.isSome_or, Option.isSome_or, Bool.or_eq_true, Bool.or_eq_true,
    findNormal?_isSome (lowerAscii_decimal status),
    findNormal?_isSome (lowerAscii_statusCategory status), findNormal?_isSome lowerAscii_default]

/-- If anything is selected, some form is the closest. -/
theorem exists_closest (h : (rs.select? status).isSome = true) :
    ∃ code, rs.Closest status code := by
  by_cases hstatus : rs.HasForm (decimal status)
  · exact ⟨_, .status hstatus⟩
  by_cases hcategory : rs.HasForm (statusCategory status)
  · exact ⟨_, .category hstatus hcategory⟩
  · refine ⟨_, .default hstatus hcategory ?_⟩
    exact ((select?_isSome.mp h).resolve_left hstatus).resolve_left hcategory

/-- The rules that are selected are those of the least key of the closest form. -/
theorem select?_eq_some : rs.select? status = some rules ↔
    ∃ code key, rs.Closest status code ∧ rs.IsLeast code key rules := by
  constructor
  · intro h
    obtain ⟨code, hcode⟩ := exists_closest (Option.isSome_of_mem h)
    rw [hcode.select?_eq] at h
    obtain ⟨key, hkey⟩ := (findNormal?_eq_some hcode.lowerAscii).mp h
    exact ⟨code, key, hcode, hkey⟩
  · rintro ⟨code, key, hcode, hkey⟩
    rw [hcode.select?_eq]
    exact (findNormal?_eq_some hcode.lowerAscii).mpr ⟨key, hkey⟩

/-- Some code admits the status, or some key reads `default`. -/
theorem select?_isSome_iff_admits : (rs.select? status).isSome = true ↔
    ∃ key ∈ rs.names, (ResponseCode.ofText key).admits status = true ∨ normalCode key = "default" := by
  rw [select?_isSome]
  unfold HasForm ResponseCode.admits ResponseCode.ofText
  simp only [Bool.or_eq_true, beq_iff_eq]
  constructor
  · rintro (⟨key, hkey, h⟩ | ⟨key, hkey, h⟩ | ⟨key, hkey, h⟩)
    · exact ⟨key, hkey, .inl (.inl h)⟩
    · exact ⟨key, hkey, .inl (.inr h)⟩
    · exact ⟨key, hkey, .inr h⟩
  · rintro ⟨key, hkey, (h | h) | h⟩
    · exact .inl ⟨key, hkey, h⟩
    · exact .inr (.inl ⟨key, hkey, h⟩)
    · exact .inr (.inr ⟨key, hkey, h⟩)

end Responses

/-! ## §4. Codes. -/

namespace ResponseCode

/-- The code that is made of its own text, and that is read from its text in JSON, is itself. -/
structure IsKept (c : ResponseCode) : Prop where
  again : ofText c.text = c
  reread : decodeText ResponseCode.decode (JsonText.read c.toJson.text) = .ok c

/-- A code in normal form is kept as it is. -/
theorem IsNormal.isKept {c : ResponseCode} (h : c.IsNormal) : c.IsKept := by
  have hdepth : c.toJson.depth ≤ JsonText.greatestDepth := Nat.zero_le _
  have hrecovers := h.recovers c.toJson (.refl c.toJson)
  exact ⟨congrArg ResponseCode.mk h, decodeText_text trivial hdepth hrecovers⟩

/-- **RULES ARE SELECTED BY THE CODES THAT ADMIT A STATUS.**  There are rules for a status exactly
if the code of some key admits it or some key reads `default`; they stand under the least key of
the closest form.  Codes of texts and of statuses are kept, so they admit the same statuses when
they are written and read again. -/
theorem selection_agrees (rs : Responses) (status : Nat) :
    ((rs.select? status).isSome = true ↔
      ∃ key ∈ rs.names, (ofText key).admits status = true ∨ normalCode key = "default") ∧
    (∀ rules, rs.select? status = some rules ↔
      ∃ code key, rs.Closest status code ∧ rs.IsLeast code key rules) ∧
    (∀ s, (ofText s).IsKept) ∧ ∀ n, (ofStatus n).IsKept :=
  ⟨Responses.select?_isSome_iff_admits, fun _ => Responses.select?_eq_some,
    fun s => IsNormal.isKept (normalCode_normalCode s),
    fun n => IsNormal.isKept (normalCode_decimal n)⟩

end ResponseCode

end ApiPlaybook
