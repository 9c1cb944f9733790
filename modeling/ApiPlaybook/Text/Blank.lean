/-
  ApiPlaybook.Text.Blank
  ──────────────────────
  **BLANKS AND ASCII CASE.**

  The blank characters are those with the property White_Space.  Trimming
  removes them at the ends of a text; case is ignored for ASCII letters only,
  as in header names and response codes.
-/

namespace ApiPlaybook

/-- Whether the character has the property White_Space. -/
def isBlank (c : Char) : Bool :=
  let n := c.toNat
  (0x09 ≤ n && n ≤ 0x0d) || n == 0x20 || n == 0x85 || n == 0xa0 || n == 0x1680
    || (0x2000 ≤ n && n ≤ 0x200a) || n == 0x2028 || n == 0x2029 || n == 0x202f
    || n == 0x205f || n == 0x3000

/-- The text without the blanks in front of it. -/
def trimStart (cs : List Char) : List Char := cs.dropWhile isBlank

/-- The text without the blanks behind it. -/
def trimEnd (cs : List Char) : List Char := (cs.reverse.dropWhile isBlank).reverse

/-- The text without the blanks at its ends. -/
def trimBlanks (s : String) : String := String.ofList (trimEnd (trimStart s.toList))

/-- Whether a text has no other characters than blanks. -/
def isBlankText (s : String) : Bool := s.toList.all isBlank

/-- The text with its ASCII letters in lower case. -/
def lowerAscii (s : String) : String := s.map Char.toLower

/-- Equality up to the case of ASCII letters. -/
def sameIgnoringCase (s t : String) : Bool := lowerAscii s == lowerAscii t

/-- Letters and digits by their code points. -/
theorem isAlphanum_iff {c : Char} : c.isAlphanum = true ↔ (48 ≤ c.toNat ∧ c.toNat ≤ 57) ∨
    (65 ≤ c.toNat ∧ c.toNat ≤ 90) ∨ (97 ≤ c.toNat ∧ c.toNat ≤ 122) := by
  show ((decide ('A'.val ≤ c.val ∧ c.val ≤ 'Z'.val)
      || decide ('a'.val ≤ c.val) && decide (c.val ≤ 'z'.val))
      || decide ('0'.val ≤ c.val) && decide (c.val ≤ '9'.val)) = true ↔ _
  simp only [Bool.or_eq_true, Bool.and_eq_true, decide_eq_true_eq, UInt32.le_iff_toNat_le]
  show (65 ≤ c.toNat ∧ c.toNat ≤ 90 ∨ 97 ≤ c.toNat ∧ c.toNat ≤ 122)
    ∨ 48 ≤ c.toNat ∧ c.toNat ≤ 57 ↔ _
  omega

/-- Letters, digits and marks of ASCII are ASCII. -/
theorem isAscii_of_alphanum_or {marks : List Char} {c : Char}
    (hmarks : marks.all (fun d => d.toNat < 0x80) = true)
    (h : (c.isAlphanum || marks.contains c) = true) : c.toNat < 0x80 := by
  rcases Bool.or_eq_true_iff.mp h with h | h
  · rw [isAlphanum_iff] at h
    omega
  · simpa using List.all_eq_true.mp hmarks c (List.contains_iff_mem.mp h)

/-- The parts before and after the first occurrence of a character. -/
def splitFirst (c : Char) : List Char → Option (List Char × List Char)
  | [] => none
  | d :: rest => if d = c then some ([], rest) else (splitFirst c rest).map fun (a, b) => (d :: a, b)

/-- The two parts of a split, with the character between them, are the text. -/
theorem splitFirst_eq {c : Char} {cs a b : List Char} (h : splitFirst c cs = some (a, b)) :
    cs = a ++ c :: b := by
  induction cs generalizing a b with
  | nil => simp [splitFirst] at h
  | cons d rest ih =>
    rw [splitFirst] at h
    split at h
    · next hd =>
      simp only [Option.some.injEq, Prod.mk.injEq] at h
      simp [← h.1, h.2, hd]
    · obtain ⟨⟨a', b'⟩, hr, he⟩ := Option.map_eq_some_iff.1 h
      simp only [Prod.mk.injEq] at he
      rw [← he.1, ← he.2, ih hr]
      rfl

/-- Without the character there is nothing to split at. -/
theorem splitFirst_eq_none {c : Char} {cs : List Char} (h : c ∉ cs) : splitFirst c cs = none := by
  induction cs with
  | nil => rfl
  | cons d rest ih =>
    have hd : c ≠ d := List.ne_of_not_mem_cons h
    rw [splitFirst, if_neg hd.symm, ih (List.not_mem_of_not_mem_cons h)]
    rfl

/-- A text is split at the first place of the character. -/
theorem splitFirst_append {c : Char} {a : List Char} (b : List Char) (h : c ∉ a) :
    splitFirst c (a ++ c :: b) = some (a, b) := by
  induction a with
  | nil => simp [splitFirst]
  | cons d a ih =>
    have hd : d ≠ c := fun e => h (e ▸ List.mem_cons_self)
    rw [List.cons_append, splitFirst, if_neg hd, ih fun hm => h (List.mem_cons_of_mem _ hm)]
    rfl

/-- The parts of a text around the first occurrence of a character. -/
def splitOnce (s : String) (c : Char) : Option (String × String) :=
  (splitFirst c s.toList).map fun (a, b) => (String.ofList a, String.ofList b)

/-- The parts of a text between the occurrences of a character. -/
def splitAll (c : Char) : List Char → List (List Char)
  | [] => [[]]
  | d :: rest =>
    if d = c then [] :: splitAll c rest
    else match splitAll c rest with
      | [] => [[d]]
      | part :: parts => (d :: part) :: parts

/-- Decimal digits of a natural number. -/
def decimal (n : Nat) : String := String.ofList (Nat.toDigits 10 n)

/-- A text between single quotes. -/
def singleQuoted (s : String) : String :=
  String.singleton (Char.ofNat 39) ++ s ++ String.singleton (Char.ofNat 39)

end ApiPlaybook
