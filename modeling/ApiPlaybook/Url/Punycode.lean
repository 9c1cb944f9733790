/-
  ApiPlaybook.Url.Punycode
  ────────────────────────
  **LABELS IN ASCII LETTERS.**

  A label of a domain name with characters outside ASCII is written in letters,
  digits and hyphens: first its ASCII characters, then, behind a hyphen, the
  others in the order of their code points, each as a number that says how far
  the next insertion is from the last one.  The base of the digits adapts to
  the numbers met so far.
-/

namespace ApiPlaybook.Url.Punycode

/-! ## §1. Digits. -/

/-- The digit of a value below 36. -/
def digit (n : Nat) : Char := if n < 26 then Char.ofNat (97 + n) else Char.ofNat (22 + n)

/-- The value of a digit. -/
def digitValue? (c : Char) : Option Nat :=
  if c.isLower then some (c.toNat - 97)
  else if c.isUpper then some (c.toNat - 65)
  else if c.isDigit then some (c.toNat - 22)
  else none

/-- Digits below this value end a number, at position `k` (a multiple of 36). -/
def threshold (k bias : Nat) : Nat := if k ≤ bias then 1 else min 26 (k - bias)

/-- A threshold is 1 or more, so what is left behind a digit is less than there was. -/
theorem threshold_pos (k bias : Nat) : 1 ≤ threshold k bias := by
  unfold threshold
  split <;> omega

theorem threshold_le (k bias : Nat) : threshold k bias ≤ 26 := by
  unfold threshold
  split <;> omega

/-- Divide by 35 until at most 455 is left, counting positions. -/
def shrink (delta k : Nat) : Nat × Nat :=
  if 455 < delta then shrink (delta / 35) (k + 36) else (delta, k)
termination_by delta
decreasing_by omega

/-- The bias after a distance, with the number of characters there are then. -/
def adapt (delta count : Nat) (first : Bool) : Nat :=
  let halved := if first then delta / 700 else delta / 2
  let (rest, k) := shrink (halved + halved / count) 0
  k + 36 * rest / (rest + 38)

/-! ## §2. Writing. -/

/-- The digits of a distance. -/
def distance (bias k q : Nat) : List Char :=
  let t := threshold k bias
  if q < t then [digit q]
  else digit (t + (q - t) % (36 - t)) :: distance bias (k + 36) ((q - t) / (36 - t))
termination_by q
decreasing_by
  have h1 := threshold_pos k bias
  have h2 := Nat.div_le_self (q - threshold k bias) (36 - threshold k bias)
  omega

/-- Where the writing of a label stands. -/
structure Writer where
  written : List Char
  delta : Nat
  bias : Nat
  /-- The number of characters written. -/
  count : Nat

/-- Pass the characters of a label, writing those with code point `n`. -/
def Writer.pass (basic n : Nat) (w : Writer) (m : Nat) : Writer :=
  if m < n then { w with delta := w.delta + 1 }
  else if m = n then
    ⟨w.written ++ distance w.bias 36 w.delta, 0, adapt w.delta (w.count + 1) (w.count == basic),
      w.count + 1⟩
  else w

/-- Write the code points of the list, which increases; `next` is the least
code point not yet written. -/
def Writer.write (label : List Nat) (basic : Nat) (next : Nat) (w : Writer) : List Nat → Writer
  | [] => w
  | n :: rest =>
    let w := { w with delta := w.delta + (n - next) * (w.count + 1) }
    let w := label.foldl (Writer.pass basic n) w
    Writer.write label basic (n + 1) { w with delta := w.delta + 1 } rest

/-- The written form of a label. -/
def encode (label : List Nat) : List Char :=
  let basic := label.filter (· < 0x80)
  let others := ((label.filter (0x80 ≤ ·)).mergeSort).eraseDups
  let front := basic.map Char.ofNat ++ if basic.isEmpty then [] else ['-']
  (Writer.write label basic.length 0x80 ⟨front, 0, 72, basic.length⟩ others).written

/-! ## §3. Reading. -/

/-- Read a distance: its value, and the digits behind it. -/
def readDistance (bias : Nat) : Nat → Nat → Nat → List Char → Option (Nat × List Char)
  | k, weight, value, c :: rest =>
    match digitValue? c with
    | none => none
    | some d =>
      let t := threshold k bias
      if d < t then some (value + d * weight, rest)
      else readDistance bias (k + 36) (weight * (36 - t)) (value + d * weight) rest
  | _, _, _, [] => none

/-- Reading a distance uses up digits, so reading a label ends. -/
theorem readDistance_length {bias k weight value : Nat} {cs rest : List Char} {n : Nat}
    (h : readDistance bias k weight value cs = some (n, rest)) : rest.length < cs.length := by
  induction cs generalizing k weight value with
  | nil => simp [readDistance] at h
  | cons c cs ih =>
    rw [readDistance] at h
    split at h
    · simp at h
    · simp only at h
      split at h
      · simp only [Option.some.injEq, Prod.mk.injEq] at h
        simp [h.2]
      · exact Nat.lt_succ_of_lt (ih h)

/-- Insert the characters that distances describe into a label.  The last one
was `n`, in front of position `i`; position 0 says that there is none yet. -/
def readInsertions (label : List Nat) (n i bias : Nat) (digits : List Char) :
    Option (List Nat) :=
  match digits with
  | [] => some label
  | c :: cs =>
    match _h : readDistance bias 36 1 0 (c :: cs) with
    | none => none
    | some (delta, rest) =>
      let count := label.length + 1
      let n := n + (i + delta) / count
      let place := (i + delta) % count
      if 0x10ffff < n || (0xd800 ≤ n && n ≤ 0xdfff) then none
      else
        readInsertions (label.insertIdx place n) n (place + 1) (adapt delta count (i == 0)) rest
termination_by digits.length
decreasing_by exact readDistance_length ‹_›

/-- The label that a written form denotes: its ASCII characters end at the last
hyphen, if that is not the first character. -/
def decode? (cs : List Char) : Option (List Nat) :=
  let behind := (cs.reverse.takeWhile (· != '-')).reverse
  let front := cs.take (cs.length - behind.length - 1)
  let label := front.map Char.toNat
  let digits := if front.isEmpty then cs else behind
  if label.all (· < 0x80) then readInsertions label 0x80 0 72 digits else none

end ApiPlaybook.Url.Punycode
