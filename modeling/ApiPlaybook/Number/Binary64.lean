/-
  ApiPlaybook.Number.Binary64
  ───────────────────────────
  **FINITE DOUBLES, AS EXACT ARITHMETIC SEES THEM.**

  A number with a fraction or an exponent is kept as a finite IEEE 754 double:
  a sign and a magnitude.  The magnitude is the 63 bits below the sign read as
  one number, so doubles of one sign are ordered as their magnitudes are.

  All rounding is one function, `nearestMagnitude`: the double nearest to a
  quotient of natural numbers, ties to the even one.  Reading a decimal and the
  two arithmetic operations that a JSON number needs are built from it.
-/

namespace ApiPlaybook

/-- A finite double. -/
structure Binary64 where
  /-- The sign; zero has both. -/
  negative : Bool
  /-- Biased exponent and fraction, as one number. -/
  magnitude : Nat
  /-- The exponent is below that of infinity. -/
  finite : magnitude < 0x7ff0000000000000
deriving DecidableEq

namespace Binary64

/-! ## §1. The value of a magnitude. -/

/-- The least magnitude that is no finite double. -/
def infinite : Nat := 0x7ff0000000000000

/-- The integer factor of a magnitude: `significand * 2 ^ exponent` is its value. -/
def significand (magnitude : Nat) : Nat :=
  if magnitude < Nat.pow 2 52 then magnitude else magnitude % Nat.pow 2 52 + Nat.pow 2 52

/-- The power of two of a magnitude. -/
def exponent (magnitude : Nat) : Int :=
  if magnitude < Nat.pow 2 52 then -1074 else (magnitude / Nat.pow 2 52 : Nat) - 1075

/-- `n * 2 ^ e` as a quotient of natural numbers. -/
def scaled (n : Nat) (e : Int) : Nat × Nat :=
  if 0 ≤ e then (n * Nat.pow 2 e.toNat, 1) else (n, Nat.pow 2 (-e).toNat)

/-- The value of a magnitude as a quotient of natural numbers. -/
def ratio (magnitude : Nat) : Nat × Nat :=
  scaled (significand magnitude) (exponent magnitude)

def zero : Binary64 := ⟨false, 0, by decide⟩

instance : Inhabited Binary64 := ⟨zero⟩

/-- Whether the number is a zero of either sign. -/
def isZero (x : Binary64) : Bool := x.magnitude == 0

/-- The double of that sign and magnitude, unless the magnitude is too large. -/
def ofMagnitude? (negative : Bool) (magnitude : Nat) : Option Binary64 :=
  if h : magnitude < 0x7ff0000000000000 then some ⟨negative, magnitude, h⟩ else none

/-! ## §2. Rounding. -/

/-- The integer nearest to `num / den`, a half going to the even neighbour. -/
def roundHalfEven (num den : Nat) : Nat :=
  let q := num / den
  let r := num % den
  if 2 * r < den then q
  else if den < 2 * r then q + 1
  else q + q % 2

/-- The magnitude of the double nearest to `num / den`, ties to even; at least
`infinite` when the quotient is too large. -/
def nearestMagnitude (num den : Nat) : Nat :=
  if num = 0 then 0
  else
    let guess : Int := max (-1074) ((Nat.log2 num : Int) - Nat.log2 den - 53)
    let shifted (e : Int) : Nat × Nat :=
      if 0 ≤ e then (num, den * Nat.pow 2 e.toNat) else (num * Nat.pow 2 (-e).toNat, den)
    let (n, d) := shifted guess
    let e := if Nat.pow 2 53 ≤ n / d then guess + 1 else guess
    let (n, d) := shifted e
    (e + 1074).toNat * Nat.pow 2 52 + roundHalfEven n d

/-- The magnitude nearest to the product of two magnitudes. -/
def mulMagnitude (a b : Nat) : Nat :=
  let (na, da) := ratio a
  let (nb, db) := ratio b
  nearestMagnitude (na * nb) (da * db)

/-- The magnitude nearest to the quotient of two magnitudes. -/
def divMagnitude (a b : Nat) : Nat :=
  let (na, da) := ratio a
  let (nb, db) := ratio b
  nearestMagnitude (na * db) (da * nb)

/-! ## §3. Decimals. -/

/-- The number of decimal digits of `n`; none for zero. -/
def digitCount (n : Nat) : Nat := if n = 0 then 0 else (Nat.toDigits 10 n).length

/-- The double nearest to `digits * 10 ^ e`; none when it is too large. -/
def ofDecimal? (negative : Bool) (digits : Nat) (e : Int) : Option Binary64 :=
  if digits = 0 then some ⟨negative, 0, by decide⟩
  else
    let top := e + digitCount digits
    if 310 < top then none
    else if top < -330 then some ⟨negative, 0, by decide⟩
    else if 0 ≤ e then ofMagnitude? negative (nearestMagnitude (digits * Nat.pow 10 e.toNat) 1)
    else ofMagnitude? negative (nearestMagnitude digits (Nat.pow 10 (-e).toNat))

/-- The magnitude nearest to a power of ten. -/
def powerOfTen (k : Nat) : Nat := nearestMagnitude (Nat.pow 10 k) 1

/-- Divide by `10 ^ k`: by `10 ^ 308` as long as `k` exceeds that, stopping at
zero, then by the rest, with one rounding a division. -/
def divPowerOfTen (magnitude k : Nat) : Nat :=
  if h : 308 < k then
    if magnitude = 0 then 0
    else divPowerOfTen (divMagnitude magnitude (powerOfTen 308)) (k - 308)
  else divMagnitude magnitude (powerOfTen k)
termination_by k
decreasing_by omega

/-- The double for `significand * 10 ^ e` as a JSON number is read: the
significand is rounded first, then multiplied or divided by a power of ten with
one more rounding.  None when the result is too large. -/
def ofScaled? (negative : Bool) (significand : Nat) (e : Int) : Option Binary64 :=
  let start := nearestMagnitude significand 1
  if 308 < e then
    if significand = 0 then some ⟨negative, 0, by decide⟩ else none
  else if 0 ≤ e then
    ofMagnitude? negative (mulMagnitude start (powerOfTen e.toNat))
  else ofMagnitude? negative (divPowerOfTen start (-e).toNat)

/-! ## §4. Order. -/

/-- The magnitude with its sign; both zeros give zero. -/
def signed (x : Binary64) : Int :=
  if x.negative then -(x.magnitude : Int) else x.magnitude

/-- Order by value; the two zeros are equal. -/
def compare (x y : Binary64) : Ordering := Ord.compare x.signed y.signed

end Binary64

end ApiPlaybook
