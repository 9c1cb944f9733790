/-
  ApiPlaybook.Url.Percent
  ───────────────────────
  **ESCAPED CHARACTERS IN URLS.**

  A character that may not stand where it is meant is written byte by byte, as
  a percent sign with two hexadecimal digits.  Which characters these are
  depends on the part of the URL; characters outside ASCII and controls are
  always among them.  What was escaped is read back (`percentDecode_escape`).
-/
import ApiPlaybook.Text.Utf8

namespace ApiPlaybook.Url

/-! ## §1. Writing. -/

/-- A hexadecimal digit, in upper case. -/
def hexDigit (n : Nat) : Char := if n < 10 then Char.ofNat (48 + n) else Char.ofNat (55 + n)

/-- A byte in escaped form. -/
def escapedByte (b : Nat) : List Char := ['%', hexDigit (b / 16), hexDigit (b % 16)]

/-- A character in escaped form. -/
def escapedChar (c : Char) : List Char := (utf8Char c).flatMap escapedByte

/-- A text in which the characters of a set are escaped. -/
def escape (mustEscape : Char → Bool) (cs : List Char) : List Char :=
  cs.flatMap fun c => if mustEscape c then escapedChar c else [c]

/-! ## §2. The parts of a URL. -/

/-- Escaped everywhere. -/
def escapedAlways (c : Char) : Bool := c.toNat < 0x20 || 0x7f ≤ c.toNat

def escapedInFragment (c : Char) : Bool := escapedAlways c || " \"<>`".toList.contains c

def escapedInPath (c : Char) : Bool :=
  escapedInFragment c || ['#', '?', '\x7b', '\x7d'].contains c

def escapedInUserInfo (c : Char) : Bool := escapedInPath c || "/:;=@[\\]^|".toList.contains c

/-- Escaped in a query; an apostrophe only where the scheme is a special one. -/
def escapedInQuery (special : Bool) (c : Char) : Bool :=
  escapedAlways c || " \"#<>".toList.contains c || (special && c == Char.ofNat 39)

/-- Kept as they are in the value of a path parameter. -/
def isUnreserved (c : Char) : Bool := c.isAlphanum || "-_.~".toList.contains c

/-- A value made fit to be a part of a path. -/
def escapeAllReserved (cs : List Char) : List Char := escape (fun c => !isUnreserved c) cs

/-! ## §3. Reading. -/

/-- The value of a hexadecimal digit. -/
def hexValue? (c : Char) : Option Nat :=
  if '0' ≤ c ∧ c ≤ '9' then some (c.toNat - 48)
  else if 'A' ≤ c ∧ c ≤ 'F' then some (c.toNat - 55)
  else if 'a' ≤ c ∧ c ≤ 'f' then some (c.toNat - 87)
  else none

/-- The byte that two hexadecimal digits denote. -/
def hexByte? (a b : Char) : Option Nat := do return 16 * (← hexValue? a) + (← hexValue? b)

/-- The bytes of a text with escapes; a percent sign without two digits stands
for itself. -/
def percentDecode : List Char → List Nat
  | [] => []
  | '%' :: a :: b :: rest =>
    match hexByte? a b with
    | some n => n :: percentDecode rest
    | none => 0x25 :: percentDecode (a :: b :: rest)
  | c :: rest => utf8Char c ++ percentDecode rest

/-! ## §4. What escaping writes. -/

/-- The bytes of a character are bytes. -/
theorem utf8Char_lt {c : Char} {b : Nat} (h : b ∈ utf8Char c) : b < 256 := by
  have hc : c.toNat < 0xd800 ∨ 0xdfff < c.toNat ∧ c.toNat < 0x110000 := c.valid
  unfold utf8Char utf8OfNat at h
  split at h
  · simp only [List.mem_singleton] at h; omega
  split at h
  · simp only [List.mem_cons, List.not_mem_nil, or_false] at h; omega
  split at h
  · simp only [List.mem_cons, List.not_mem_nil, or_false] at h; omega
  · simp only [List.mem_cons, List.not_mem_nil, or_false] at h; omega

theorem exists_escapedChar_eq (c : Char) : ∃ rest, escapedChar c = '%' :: rest := by
  unfold escapedChar utf8Char utf8OfNat
  split
  · exact ⟨_, rfl⟩
  split
  · exact ⟨_, rfl⟩
  split
  · exact ⟨_, rfl⟩
  · exact ⟨_, rfl⟩

theorem escape_cons (mustEscape : Char → Bool) (c : Char) (cs : List Char) :
    escape mustEscape (c :: cs)
      = (if mustEscape c then escapedChar c else [c]) ++ escape mustEscape cs := rfl

/-- An escaped character is written with percent signs and hexadecimal digits. -/
theorem mem_escapedChar {c d : Char} (h : c ∈ escapedChar d) :
    c = '%' ∨ ∃ n < 16, c = hexDigit n := by
  obtain ⟨b, hb, hc⟩ := List.mem_flatMap.mp h
  have hlt := utf8Char_lt hb
  simp only [escapedByte, List.mem_cons, List.not_mem_nil, or_false] at hc
  rcases hc with rfl | rfl | rfl
  · exact .inl rfl
  · exact .inr ⟨b / 16, by omega, rfl⟩
  · exact .inr ⟨b % 16, by omega, rfl⟩

/-- A character of an escaped text stood there unescaped, or was brought in by escaping. -/
theorem mem_escape {mustEscape : Char → Bool} {cs : List Char} {c : Char}
    (h : c ∈ escape mustEscape cs) :
    (c ∈ cs ∧ mustEscape c = false) ∨ c = '%' ∨ ∃ n < 16, c = hexDigit n := by
  obtain ⟨d, hd, hc⟩ := List.mem_flatMap.mp h
  by_cases hesc : mustEscape d = true
  · rw [if_pos hesc] at hc
    exact .inr (mem_escapedChar hc)
  · rw [if_neg hesc] at hc
    rw [List.mem_singleton.mp hc]
    exact .inl ⟨hd, Bool.eq_false_iff.mpr hesc⟩

/-- A fact about what is not escaped, the percent sign and the digits holds of a whole text. -/
theorem forall_mem_escape {P : Char → Prop} {mustEscape : Char → Bool} {cs : List Char}
    (h : ∀ c ∈ cs, mustEscape c = false → P c) (hpercent : P '%')
    (hdigit : ∀ n < 16, P (hexDigit n)) : ∀ c ∈ escape mustEscape cs, P c := by
  intro c hc
  rcases mem_escape hc with ⟨hmem, hplain⟩ | rfl | ⟨n, hn, rfl⟩
  · exact h c hmem hplain
  · exact hpercent
  · exact hdigit n hn

/-- A text without characters to escape is left as it is. -/
theorem escape_eq_self {mustEscape : Char → Bool} {cs : List Char}
    (h : ∀ c ∈ cs, mustEscape c = false) : escape mustEscape cs = cs := by
  induction cs with
  | nil => rfl
  | cons c cs ih =>
    rw [escape_cons, if_neg (by simp [h c List.mem_cons_self]),
      ih fun d hd => h d (List.mem_cons_of_mem _ hd)]
    rfl

/-- Texts are escaped one behind the other. -/
theorem escape_append (mustEscape : Char → Bool) (a b : List Char) :
    escape mustEscape (a ++ b) = escape mustEscape a ++ escape mustEscape b :=
  List.flatMap_append

/-- What is not escaped everywhere is ASCII that can be printed. -/
theorem escapedAlways_eq_false {c : Char} :
    escapedAlways c = false ↔ 0x20 ≤ c.toNat ∧ c.toNat < 0x7f := by
  unfold escapedAlways
  simp

/-- A fact about an ASCII character is a fact about finitely many numbers. -/
theorem forall_of_ascii {P : Char → Prop} (h : ∀ n < 0x80, P (Char.ofNat n)) {c : Char}
    (hc : c.toNat < 0x80) : P c :=
  Char.ofNat_toNat c ▸ h c.toNat hc

/-- So is a fact about what a part of a URL does not escape. -/
theorem forall_of_not_escaped {mustEscape : Char → Bool} {P : Char → Prop}
    (halways : ∀ c, escapedAlways c = true → mustEscape c = true)
    (h : ∀ n < 0x80, mustEscape (Char.ofNat n) = false → P (Char.ofNat n)) {c : Char}
    (hc : mustEscape c = false) : P c := by
  have hplain : escapedAlways c = false := by
    cases hescaped : escapedAlways c with
    | false => rfl
    | true => exact absurd (halways c hescaped) (by simp [hc])
  have hascii : c.toNat < 0x80 := Nat.lt_succ_of_lt (escapedAlways_eq_false.mp hplain).2
  exact forall_of_ascii (P := fun c => mustEscape c = false → P c) h hascii hc

/-! ## §5. Reading what was written. -/

theorem hexValue?_hexDigit {n : Nat} (h : n < 16) : hexValue? (hexDigit n) = some n :=
  (by decide : ∀ n < 16, hexValue? (hexDigit n) = some n) n h

/-- A byte is read back from its two hexadecimal digits. -/
theorem hexByte?_hexDigit {b : Nat} (h : b < 256) :
    hexByte? (hexDigit (b / 16)) (hexDigit (b % 16)) = some b := by
  simp only [hexByte?, hexValue?_hexDigit (show b / 16 < 16 by omega),
    hexValue?_hexDigit (show b % 16 < 16 by omega), bind, Option.bind, pure, Option.some.injEq]
  omega

/-- An escaped byte is decoded to this byte. -/
theorem percentDecode_escapedByte {b : Nat} (h : b < 256) (rest : List Char) :
    percentDecode (escapedByte b ++ rest) = b :: percentDecode rest := by
  simp [escapedByte, percentDecode, hexByte?_hexDigit h]

/-- So are escaped bytes in a row. -/
theorem percentDecode_escapedBytes {bs : List Nat} (h : ∀ b ∈ bs, b < 256) (rest : List Char) :
    percentDecode (bs.flatMap escapedByte ++ rest) = bs ++ percentDecode rest := by
  induction bs with
  | nil => rfl
  | cons b bs ih =>
    rw [List.flatMap_cons, List.append_assoc, percentDecode_escapedByte (h b List.mem_cons_self),
      ih fun b' hb' => h b' (List.mem_cons_of_mem _ hb')]
    rfl

/-- An escaped character is read as its bytes. -/
theorem percentDecode_escapedChar (c : Char) (rest : List Char) :
    percentDecode (escapedChar c ++ rest) = utf8Char c ++ percentDecode rest :=
  percentDecode_escapedBytes (fun _ hb => utf8Char_lt hb) rest

/-- A character other than the percent sign is read as its bytes. -/
theorem percentDecode_cons {c : Char} (h : c ≠ '%') (rest : List Char) :
    percentDecode (c :: rest) = utf8Char c ++ percentDecode rest := by
  rw [percentDecode]
  intro a b r hc
  exact absurd hc h

/-- A text is read back when the percent sign was among the escaped characters. -/
theorem percentDecode_escape {mustEscape : Char → Bool} (h : mustEscape '%' = true)
    (cs rest : List Char) :
    percentDecode (escape mustEscape cs ++ rest) = utf8Bytes cs ++ percentDecode rest := by
  induction cs with
  | nil => rfl
  | cons c cs ih =>
    have e' : utf8Bytes (c :: cs) = utf8Char c ++ utf8Bytes cs := by simp [utf8Bytes]
    rw [escape_cons, e', List.append_assoc, List.append_assoc]
    by_cases hc : mustEscape c = true
    · rw [if_pos hc, percentDecode_escapedChar, ih]
    · rw [if_neg hc, List.cons_append, List.nil_append,
        percentDecode_cons (by rintro rfl; exact hc h), ih]

end ApiPlaybook.Url
