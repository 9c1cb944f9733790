/-
  ApiPlaybook.Proofs.Template.Pattern
  ───────────────────────────────────
  **REFERENCES ARE THE MATCHES OF A PATTERN.**

  What counts as a reference is said by a regular expression (`referencePattern`),
  and that a text is one reference by another one, which is bound to both ends of
  the text (`wholePattern`).  Both are read here as patterns of extraction rules
  are, and given the meaning of `Regex.Expr.Matches`:

      the pattern matches exactly the texts that are written as a reference, with
      the name as its group (`patternMatches_reference`);
      bound to both ends it matches such a text between the start and the end
      only (`patternMatches_whole`);
      a reference is read exactly where such a text stands (`at?_eq_some`).

  The two patterns themselves are read by evaluation (`cbv`), since ranges of
  characters are sorted by a recursion that does not reduce.  Evaluation goes by
  the equations of definitions, which are stated all over the library: this is
  the one module that imports the whole of it.
-/
import Mathlib
import ApiPlaybook.Proofs.Regex.Matches
import ApiPlaybook.Template.Reference

namespace ApiPlaybook

/-! ## §1. How a reference is written. -/

/-- The ways to write a reference to a name: between double braces, blanks around it. -/
structure Reference.Spelling (before name behind : List Char) : Prop where
  before : ∀ c ∈ before, isBlank c = true
  nonempty : name ≠ []
  name : ∀ c ∈ name, isNameChar c = true
  behind : ∀ c ∈ behind, isBlank c = true

/-- The text is a reference to the name. -/
def Reference.Writes (name written : List Char) : Prop :=
  ∃ before behind, Spelling before name behind ∧
    written = '\x7b' :: '\x7b' :: (before ++ name ++ behind ++ ['\x7d', '\x7d'])

/-- The characters of names by their code points. -/
theorem isNameChar_iff {c : Char} : isNameChar c = true ↔
    c.toNat = 36 ∨ (45 ≤ c.toNat ∧ c.toNat ≤ 46) ∨ (48 ≤ c.toNat ∧ c.toNat ≤ 57) ∨
      (65 ≤ c.toNat ∧ c.toNat ≤ 90) ∨ c.toNat = 95 ∨ (97 ≤ c.toNat ∧ c.toNat ≤ 122) := by
  have hone (d : Char) : (c == d) = true ↔ c.toNat = d.toNat := by
    rw [beq_iff_eq, Char.toNat_inj]
  unfold isNameChar
  simp only [Bool.or_eq_true, isAlphanum_iff, hone]
  show (((_ ∨ c.toNat = 95) ∨ c.toNat = 45) ∨ c.toNat = 46) ∨ c.toNat = 36 ↔ _
  omega

/-- No character of a name is blank. -/
theorem isBlank_of_isNameChar {c : Char} (h : isNameChar c = true) : isBlank c = false := by
  rw [isNameChar_iff] at h
  simp [isBlank]
  omega

/-- Characters are taken up to the first that stops. -/
theorem takeWhile_append_stop {p : Char → Bool} {front more : List Char} {c : Char}
    (hfront : ∀ d ∈ front, p d = true) (hc : p c = false) :
    (front ++ c :: more).takeWhile p = front := by
  rw [List.takeWhile_append_of_pos hfront, List.takeWhile_cons, hc]
  simp

theorem dropWhile_append_stop {p : Char → Bool} {front more : List Char} {c : Char}
    (hfront : ∀ d ∈ front, p d = true) (hc : p c = false) :
    (front ++ c :: more).dropWhile p = c :: more := by
  rw [List.dropWhile_append_of_pos hfront, List.dropWhile_cons, hc]
  simp

namespace Reference

/-- A text that is written as a reference is read as one, whatever stands behind it. -/
theorem at?_of_writes {name written : List Char} (h : Writes name written) (rest : List Char) :
    Reference.at? (written ++ rest) = some (⟨String.ofList name, written⟩, rest) := by
  obtain ⟨before, behind, hs, rfl⟩ := h
  obtain ⟨c, more, rfl⟩ := List.exists_cons_of_ne_nil hs.nonempty
  have hc : isBlank c = false := isBlank_of_isNameChar (hs.name c List.mem_cons_self)
  -- what stands behind the name does not continue it
  obtain ⟨d, tail, htail, hd⟩ : ∃ d tail,
      behind ++ '\x7d' :: '\x7d' :: rest = d :: tail ∧ isNameChar d = false := by
    cases behind with
    | nil => exact ⟨'\x7d', '\x7d' :: rest, rfl, by decide⟩
    | cons d behind =>
      refine ⟨d, behind ++ '\x7d' :: '\x7d' :: rest, rfl, ?_⟩
      cases hname : isNameChar d with
      | false => rfl
      | true =>
        have hblank := isBlank_of_isNameChar hname
        rw [hs.behind d List.mem_cons_self] at hblank
        cases hblank
  have hbrace : isBlank '\x7d' = false := by decide
  have hwritten : '\x7b' :: '\x7b' :: (before ++ c :: more ++ behind ++ ['\x7d', '\x7d']) ++ rest
      = '\x7b' :: '\x7b' :: (before ++ c :: (more ++ (behind ++ '\x7d' :: '\x7d' :: rest))) := by
    simp
  have hname : (c :: (more ++ d :: tail)) = (c :: more) ++ d :: tail := rfl
  rw [hwritten]
  unfold Reference.at?
  simp only [takeWhile_append_stop hs.before hc, dropWhile_append_stop hs.before hc]
  rw [htail, hname]
  simp only [takeWhile_append_stop hs.name hd, dropWhile_append_stop hs.name hd]
  rw [← htail]
  simp only [takeWhile_append_stop hs.behind hbrace, dropWhile_append_stop hs.behind hbrace]

/-- What is read as a reference is written as one. -/
theorem writes_of_at? {cs rest : List Char} {r : Reference}
    (h : Reference.at? cs = some (r, rest)) : Writes r.name.toList r.written := by
  unfold Reference.at? at h
  split at h
  · next tail =>
    simp only at h
    split at h
    · next c more after hname hrest =>
      simp only [Option.some.injEq, Prod.mk.injEq] at h
      obtain ⟨rfl, rfl⟩ := h
      -- the reader takes blanks, a name and blanks, each as long as they go on
      have hspelling : Spelling (tail.takeWhile isBlank)
          ((tail.dropWhile isBlank).takeWhile isNameChar)
          (((tail.dropWhile isBlank).dropWhile isNameChar).takeWhile isBlank) :=
        { before := fun c hc => List.mem_takeWhile_imp hc
          nonempty := by rw [hname]; exact List.cons_ne_nil c more
          name := fun c hc => List.mem_takeWhile_imp hc
          behind := fun c hc => List.mem_takeWhile_imp hc }
      rw [String.toList_ofList]
      exact ⟨_, _, hspelling, rfl⟩
    · cases h
  · cases h

/-- **A REFERENCE IS READ** where one is written, and there is one way to read it. -/
theorem at?_eq_some {cs rest : List Char} {r : Reference} :
    Reference.at? cs = some (r, rest) ↔ Writes r.name.toList r.written ∧ cs = r.written ++ rest := by
  constructor
  · intro h
    exact ⟨writes_of_at? h, at?_eq h⟩
  · rintro ⟨h, rfl⟩
    rw [at?_of_writes h rest, String.ofList_toList]

end Reference

/-! ## §2. The patterns. -/

/-- What a reference is: two braces, a name between blanks, two braces. -/
def referencePattern : String := "\\\x7b\\\x7b\\s*([A-Za-z0-9_\\-.$]+)\\s*\\\x7d\\\x7d"

/-- A reference from end to end of a text. -/
def wholePattern : String := "^\\\x7b\\\x7b\\s*([A-Za-z0-9_\\-.$]+)\\s*\\\x7d\\\x7d$"

namespace Regex

/-- The pattern matches the text between the other two, its groups took these texts. -/
def PatternMatches (pattern : String) (before cs behind : List Char)
    (groups : List (Nat × List Char)) : Prop :=
  ∃ e, Expr.ofPattern? pattern = some e ∧ e.Matches before cs behind groups

/-- The pattern matches somewhere in the text. -/
def PatternFound (pattern : String) (cs : List Char) (groups : List (Nat × List Char)) : Prop :=
  ∃ before found behind, cs = before ++ found ++ behind ∧
    PatternMatches pattern before found behind groups

/-- Blank characters. -/
def blankSet : CharSet :=
  ⟨[(9, 13), (32, 32), (133, 133), (160, 160), (5760, 5760), (8192, 8202), (8232, 8233),
    (8239, 8239), (8287, 8287), (12288, 12288)]⟩

/-- Characters of names. -/
def nameSet : CharSet := ⟨[(36, 36), (45, 46), (48, 57), (65, 90), (95, 95), (97, 122)]⟩

/-- A reference up to its first closing brace, and an ending. -/
def referenceTo (ending : Expr) : Expr :=
  .seq (.set (.ofChar '\x7b')) (.seq (.set (.ofChar '\x7b')) (.seq (.rep (.set blankSet) 0 none true)
    (.seq (.group 1 (.rep (.set nameSet) 1 none true)) (.seq (.rep (.set blankSet) 0 none true)
      (.seq (.set (.ofChar '\x7d')) ending)))))

-- The kernel alone would come to a halt at the sorting of ranges (`CharSet.ofRanges`).
set_option maxRecDepth 4000 in
/-- How the pattern for references is read. -/
theorem ofPattern?_referencePattern :
    Expr.ofPattern? referencePattern = some (referenceTo (.set (.ofChar '\x7d'))) := by
  cbv

set_option maxRecDepth 4000 in
/-- How the one that is bound to both ends is read. -/
theorem ofPattern?_wholePattern : Expr.ofPattern? wholePattern
    = some (.seq (.look .textStart)
        (referenceTo (.seq (.set (.ofChar '\x7d')) (.look .textEnd)))) := by
  cbv

theorem holds_ofChar {c d : Char} : (CharSet.ofChar d).holds c.toNat = true ↔ c = d := by
  unfold CharSet.ofChar CharSet.holds
  simp only [List.any_cons, List.any_nil, Bool.or_false, Bool.and_eq_true, decide_eq_true_eq]
  rw [← Char.toNat_inj]
  omega

theorem holds_blankSet {c : Char} : blankSet.holds c.toNat = true ↔ isBlank c = true := by
  simp [CharSet.holds, blankSet, isBlank]
  omega

theorem holds_nameSet {c : Char} : nameSet.holds c.toNat = true ↔ isNameChar c = true := by
  rw [isNameChar_iff]
  simp [CharSet.holds, nameSet]
  omega

/-- What stands in front of the ending. -/
theorem matches_referenceTo {ending : Expr} {before cs behind : List Char}
    {groups : List (Nat × List Char)} :
    (referenceTo ending).Matches before cs behind groups ↔
      ∃ left name right rest more, Reference.Spelling left name right ∧
        cs = '\x7b' :: '\x7b' :: (left ++ name ++ right ++ '\x7d' :: rest) ∧
        groups = (1, name) :: more ∧
        ending.Matches (before ++ '\x7b' :: '\x7b' :: (left ++ name ++ right ++ ['\x7d']))
          rest behind more := by
  unfold referenceTo
  constructor
  · intro h
    -- take the match apart from left to right
    obtain ⟨c, cs, rfl, hc, h⟩ := Expr.matches_set_seq.mp h
    obtain ⟨d, cs, rfl, hd, h⟩ := Expr.matches_set_seq.mp h
    obtain ⟨left, cs, rfl, hleft, h⟩ := Expr.matches_many_seq.mp h
    obtain ⟨name, cs, more, rfl, rfl, hne, hname, h⟩ := Expr.matches_group_seq.mp h
    obtain ⟨right, cs, rfl, hright, h⟩ := Expr.matches_many_seq.mp h
    obtain ⟨e, rest, rfl, he, h⟩ := Expr.matches_set_seq.mp h
    obtain rfl : c = '\x7b' := holds_ofChar.mp hc
    obtain rfl : d = '\x7b' := holds_ofChar.mp hd
    obtain rfl : e = '\x7d' := holds_ofChar.mp he
    have hs : Reference.Spelling left name right :=
      { before := fun c hc => holds_blankSet.mp (hleft c hc)
        nonempty := hne
        name := fun c hc => holds_nameSet.mp (hname c hc)
        behind := fun c hc => holds_blankSet.mp (hright c hc) }
    exact ⟨left, name, right, rest, more, hs, by simp, rfl, by simpa using h⟩
  · rintro ⟨left, name, right, rest, more, hs, rfl, rfl, h⟩
    -- and put it together again
    have hleft : ∀ c ∈ left, blankSet.holds c.toNat = true :=
      fun c hc => holds_blankSet.mpr (hs.before c hc)
    have hname : ∀ c ∈ name, nameSet.holds c.toNat = true :=
      fun c hc => holds_nameSet.mpr (hs.name c hc)
    have hright : ∀ c ∈ right, blankSet.holds c.toNat = true :=
      fun c hc => holds_blankSet.mpr (hs.behind c hc)
    refine Expr.matches_set_seq.mpr ⟨_, _, rfl, holds_ofChar.mpr rfl, ?_⟩
    refine Expr.matches_set_seq.mpr ⟨_, _, rfl, holds_ofChar.mpr rfl, ?_⟩
    refine Expr.matches_many_seq.mpr ⟨left, name ++ (right ++ '\x7d' :: rest), by simp, hleft, ?_⟩
    refine Expr.matches_group_seq.mpr ⟨name, _, more, rfl, rfl, hs.nonempty, hname, ?_⟩
    refine Expr.matches_many_seq.mpr ⟨right, _, rfl, hright, ?_⟩
    refine Expr.matches_set_seq.mpr ⟨_, rest, rfl, holds_ofChar.mpr rfl, ?_⟩
    simpa using h

/-- **THE PATTERN FOR REFERENCES** matches what is written as one, with the name as its group. -/
theorem patternMatches_reference {before cs behind : List Char} {groups : List (Nat × List Char)} :
    PatternMatches referencePattern before cs behind groups ↔
      ∃ name, Reference.Writes name cs ∧ groups = [(1, name)] := by
  unfold PatternMatches
  rw [ofPattern?_referencePattern]
  constructor
  · rintro ⟨e, he, h⟩
    cases he
    obtain ⟨left, name, right, rest, more, hs, rfl, rfl, hbrace⟩ := matches_referenceTo.mp h
    obtain ⟨c, rfl, hc, rfl⟩ := Expr.matches_set.mp hbrace
    obtain rfl : c = '\x7d' := holds_ofChar.mp hc
    exact ⟨name, ⟨left, right, hs, rfl⟩, rfl⟩
  · rintro ⟨name, ⟨left, right, hs, rfl⟩, rfl⟩
    refine ⟨_, rfl, matches_referenceTo.mpr ⟨left, name, right, ['\x7d'], [], hs, rfl, rfl, ?_⟩⟩
    exact Expr.matches_set.mpr ⟨_, rfl, holds_ofChar.mpr rfl, rfl⟩

/-- The bound pattern matches between the ends of a text only. -/
theorem patternMatches_whole {before cs behind : List Char} {groups : List (Nat × List Char)} :
    PatternMatches wholePattern before cs behind groups ↔
      before = [] ∧ behind = [] ∧ ∃ name, Reference.Writes name cs ∧ groups = [(1, name)] := by
  unfold PatternMatches
  rw [ofPattern?_wholePattern]
  constructor
  · rintro ⟨e, he, h⟩
    cases he
    obtain ⟨_, _, _, _, rfl, rfl, hfirst, hnext⟩ := Expr.matches_seq.mp h
    obtain ⟨rfl, hstart, rfl⟩ := Expr.matches_look.mp hfirst
    obtain ⟨left, name, right, rest, more, hs, rfl, rfl, hbrace⟩ := matches_referenceTo.mp hnext
    obtain ⟨c, rest, rfl, hc, hlast⟩ := Expr.matches_set_seq.mp hbrace
    obtain ⟨rfl, hend, rfl⟩ := Expr.matches_look.mp hlast
    obtain rfl : c = '\x7d' := holds_ofChar.mp hc
    -- nothing stands in front of the start of a text, and nothing behind its end
    have hbefore : before = [] := List.getLast?_eq_none_iff.mp (Option.isNone_iff_eq_none.mp hstart)
    have hbehind : behind = [] := List.head?_eq_none_iff.mp (Option.isNone_iff_eq_none.mp hend)
    exact ⟨hbefore, hbehind, name, ⟨left, right, hs, rfl⟩, rfl⟩
  · rintro ⟨rfl, rfl, name, ⟨left, right, hs, rfl⟩, rfl⟩
    refine ⟨_, rfl, Expr.matches_seq.mpr ⟨[], _, [], [(1, name)], rfl, rfl, ?_, ?_⟩⟩
    · exact Expr.matches_look.mpr ⟨rfl, rfl, rfl⟩
    · refine matches_referenceTo.mpr ⟨left, name, right, ['\x7d'], [], hs, rfl, rfl, ?_⟩
      refine Expr.matches_set_seq.mpr ⟨_, [], rfl, holds_ofChar.mpr rfl, ?_⟩
      exact Expr.matches_look.mpr ⟨rfl, rfl, rfl⟩

end Regex

end ApiPlaybook
