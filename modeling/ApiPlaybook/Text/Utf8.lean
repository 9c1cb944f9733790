/-
  ApiPlaybook.Text.Utf8
  ─────────────────────
  **TEXT AS BYTES.**

  A character is written as one to four bytes.  Bytes are read back character
  by character; where they are no character, the longest beginning of one, or a
  single byte, is passed over.  Reading what was written gives the characters
  again (`decodeUtf8_utf8Bytes`).
-/

namespace ApiPlaybook

/-! ## §1. Writing. -/

/-- The bytes of a code point. -/
def utf8OfNat (n : Nat) : List Nat :=
  if n < 0x80 then [n]
  else if n < 0x800 then [0xc0 + n / 64, 0x80 + n % 64]
  else if n < 0x10000 then [0xe0 + n / 4096, 0x80 + n / 64 % 64, 0x80 + n % 64]
  else [0xf0 + n / 262144, 0x80 + n / 4096 % 64, 0x80 + n / 64 % 64, 0x80 + n % 64]

/-- The bytes of a character. -/
def utf8Char (c : Char) : List Nat := utf8OfNat c.toNat

/-- The bytes of a text. -/
def utf8Bytes (cs : List Char) : List Nat := cs.flatMap utf8Char

/-! ## §2. Reading. -/

/-- What the first byte of a character says: how many bytes follow, the bits it
contributes, and the range in which the second byte lies. -/
def utf8Lead (b : Nat) : Option (Nat × Nat × Nat × Nat) :=
  if b < 0x80 then some (0, b, 0x80, 0xbf)
  else if b < 0xc2 then none
  else if b < 0xe0 then some (1, b - 0xc0, 0x80, 0xbf)
  else if b = 0xe0 then some (2, 0, 0xa0, 0xbf)
  else if b = 0xed then some (2, 13, 0x80, 0x9f)
  else if b < 0xf0 then some (2, b - 0xe0, 0x80, 0xbf)
  else if b = 0xf0 then some (3, 0, 0x90, 0xbf)
  else if b < 0xf4 then some (3, b - 0xf0, 0x80, 0xbf)
  else if b = 0xf4 then some (3, 4, 0x80, 0x8f)
  else none

/-- Read `k` more bytes of a code point, the next of them between `low` and
`high`. -/
def utf8Tail (low high value : Nat) : Nat → List Nat → Option Nat × List Nat
  | 0, rest => (some value, rest)
  | k + 1, b :: rest =>
    if low ≤ b ∧ b ≤ high then utf8Tail 0x80 0xbf (value * 64 + (b - 0x80)) k rest
    else (none, b :: rest)
  | _ + 1, [] => (none, [])

theorem utf8Tail_length (low high value k : Nat) (bs : List Nat) :
    (utf8Tail low high value k bs).2.length ≤ bs.length := by
  induction k generalizing low high value bs with
  | zero => simp [utf8Tail]
  | succ k ih =>
    cases bs with
    | nil => simp [utf8Tail]
    | cons b rest =>
      simp only [utf8Tail]
      split
      · exact Nat.le_succ_of_le (ih _ _ _ _)
      · simp

/-- Read the code point whose first byte is `b`; the rest begins where it ends
or where it cannot go on. -/
def utf8Next (b : Nat) (rest : List Nat) : Option Nat × List Nat :=
  match utf8Lead b with
  | none => (none, rest)
  | some (k, value, low, high) => utf8Tail low high value k rest

/-- What is left behind a character is no longer than what came after its first byte. -/
theorem utf8Next_length (b : Nat) (rest : List Nat) :
    (utf8Next b rest).2.length ≤ rest.length := by
  unfold utf8Next
  split
  · exact Nat.le_refl _
  · exact utf8Tail_length _ _ _ _ _

/-- The characters of bytes, with a hole for each part that is none. -/
def decodeUtf8 : List Nat → List (Option Char)
  | [] => []
  | b :: rest => (utf8Next b rest).1.map Char.ofNat :: decodeUtf8 (utf8Next b rest).2
termination_by bs => bs.length
decreasing_by
  have := utf8Next_length b rest
  simp only [List.length_cons]
  omega

/-- The text of bytes, if all of it is characters. -/
def utf8Text? (bs : List Nat) : Option (List Char) := (decodeUtf8 bs).mapM id

/-- The text of bytes, with the replacement character for each part that is
none. -/
def utf8Text (bs : List Nat) : List Char :=
  (decodeUtf8 bs).map fun c => c.getD (Char.ofNat 0xfffd)

/-! ## §3. Reading what was written. -/

/-- The first byte of three announces two more, the second of them in range. -/
theorem utf8Lead_three {n : Nat} (h : 0x800 ≤ n) (h' : n < 0x10000)
    (hs : n < 0xd800 ∨ 0xdfff < n) :
    ∃ low high, utf8Lead (0xe0 + n / 4096) = some (2, n / 4096, low, high)
      ∧ low ≤ 0x80 + n / 64 % 64 ∧ 0x80 + n / 64 % 64 ≤ high := by
  unfold utf8Lead
  rw [if_neg (by omega), if_neg (by omega), if_neg (by omega)]
  by_cases h0 : n / 4096 = 0
  · rw [if_pos (by omega), h0]
    exact ⟨_, _, rfl, by omega, by omega⟩
  by_cases h13 : n / 4096 = 13
  · rw [if_neg (by omega), if_pos (by omega), h13]
    exact ⟨_, _, rfl, by omega, by omega⟩
  · rw [if_neg (by omega), if_neg (by omega), if_pos (by omega), Nat.add_sub_cancel_left]
    exact ⟨_, _, rfl, by omega, by omega⟩

/-- The first byte of four announces three more, the second of them in range. -/
theorem utf8Lead_four {n : Nat} (h : 0x10000 ≤ n) (h' : n < 0x110000) :
    ∃ low high, utf8Lead (0xf0 + n / 262144) = some (3, n / 262144, low, high)
      ∧ low ≤ 0x80 + n / 4096 % 64 ∧ 0x80 + n / 4096 % 64 ≤ high := by
  unfold utf8Lead
  rw [if_neg (by omega), if_neg (by omega), if_neg (by omega), if_neg (by omega),
    if_neg (by omega), if_neg (by omega)]
  by_cases h0 : n / 262144 = 0
  · rw [if_pos (by omega), h0]
    exact ⟨_, _, rfl, by omega, by omega⟩
  by_cases h4 : n / 262144 = 4
  · rw [if_neg (by omega), if_neg (by omega), if_pos (by omega), h4]
    exact ⟨_, _, rfl, by omega, by omega⟩
  · rw [if_neg (by omega), if_pos (by omega), Nat.add_sub_cancel_left]
    exact ⟨_, _, rfl, by omega, by omega⟩

/-- The bytes of a code point are decoded to it, whatever follows them. -/
theorem utf8Next_ofNat {n : Nat} (h : n < 0xd800 ∨ 0xdfff < n ∧ n < 0x110000) (rest : List Nat) :
    ∃ b bs, utf8OfNat n = b :: bs ∧ utf8Next b (bs ++ rest) = (some n, rest) := by
  unfold utf8OfNat
  split
  · next h1 => exact ⟨_, _, rfl, by simp [utf8Next, utf8Lead, h1, utf8Tail]⟩
  split
  · next h1 h2 =>
    refine ⟨_, _, rfl, ?_⟩
    simp only [utf8Next, utf8Lead, if_neg (show ¬ 0xc0 + n / 64 < 0x80 by omega),
      if_neg (show ¬ 0xc0 + n / 64 < 0xc2 by omega), if_pos (show 0xc0 + n / 64 < 0xe0 by omega),
      List.cons_append, List.nil_append, utf8Tail]
    rw [if_pos (by omega)]
    simp only [Prod.mk.injEq, Option.some.injEq, and_true]
    omega
  split
  · next h1 h2 h3 =>
    refine ⟨_, _, rfl, ?_⟩
    obtain ⟨low, high, hl, h4, h5⟩ := utf8Lead_three (n := n) (by omega) h3 (by omega)
    simp only [utf8Next, hl, List.cons_append, List.nil_append, utf8Tail]
    rw [if_pos ⟨h4, h5⟩, if_pos (by omega)]
    simp only [Prod.mk.injEq, Option.some.injEq, and_true]
    omega
  · next h1 h2 h3 =>
    refine ⟨_, _, rfl, ?_⟩
    obtain ⟨low, high, hl, h4, h5⟩ := utf8Lead_four (n := n) (by omega) (by omega)
    simp only [utf8Next, hl, List.cons_append, List.nil_append, utf8Tail]
    rw [if_pos ⟨h4, h5⟩, if_pos (by omega), if_pos (by omega)]
    simp only [Prod.mk.injEq, Option.some.injEq, and_true]
    omega

/-- So the bytes of a character are decoded to this character. -/
theorem decodeUtf8_utf8Char (c : Char) (rest : List Nat) :
    decodeUtf8 (utf8Char c ++ rest) = some c :: decodeUtf8 rest := by
  have hc : c.toNat < 0xd800 ∨ 0xdfff < c.toNat ∧ c.toNat < 0x110000 := c.valid
  obtain ⟨b, bs, hb, hn⟩ := utf8Next_ofNat hc rest
  rw [utf8Char, hb, List.cons_append, decodeUtf8, hn]
  simp

/-- Reading the bytes of a text gives its characters. -/
theorem decodeUtf8_utf8Bytes (cs : List Char) : decodeUtf8 (utf8Bytes cs) = cs.map some := by
  induction cs with
  | nil => simp [utf8Bytes, decodeUtf8]
  | cons c cs ih =>
    have h : utf8Bytes (c :: cs) = utf8Char c ++ utf8Bytes cs := by simp [utf8Bytes]
    rw [h, decodeUtf8_utf8Char, ih, List.map_cons]

/-- Bytes written from a text are read as that text. -/
theorem utf8Text_utf8Bytes (cs : List Char) : utf8Text (utf8Bytes cs) = cs := by
  rw [utf8Text, decodeUtf8_utf8Bytes]
  simp [Function.comp_def]

end ApiPlaybook
