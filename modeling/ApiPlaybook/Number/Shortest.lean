/-
  ApiPlaybook.Number.Shortest
  ───────────────────────────
  **THE FEWEST DIGITS THAT READ BACK.**

  A double is written with as few decimal digits as still read back as that
  double and, among the decimals of that length, with the nearest one; of two
  equally near the even one.  The decimals that read back as a double are those
  between the midpoints to its two neighbours, midpoints included when the
  significand is even (`Interval`).  On each decimal grid only the two grid
  points around the value can be the nearest, so they alone are tried.
-/
import ApiPlaybook.Number.Binary64

namespace ApiPlaybook

/-- A positive decimal: `digits * 10 ^ exponent`. -/
structure Decimal where
  digits : Nat
  exponent : Int
deriving DecidableEq, Inhabited

namespace Decimal

/-- Multiply a fraction by a power of ten. -/
def scaleTen (num den : Nat) (e : Int) : Nat × Nat :=
  if 0 ≤ e then (num * Nat.pow 10 e.toNat, den) else (num, den * Nat.pow 10 (-e).toNat)

/-! ## §1. The decimal exponent. -/

/-- The least `k ≤ start + fuel` from `start` on with `den ≤ num * 10 ^ k`. -/
def risingExponent (num den : Nat) : Nat → Nat → Nat
  | 0, k => k
  | fuel + 1, k =>
    if den ≤ num * Nat.pow 10 k then k else risingExponent num den fuel (k + 1)

/-- The `e` with `10 ^ e ≤ num / den < 10 ^ (e + 1)`, for a fraction that is
neither zero nor below `10 ^ -400`. -/
def leadingExponent (num den : Nat) : Int :=
  if den ≤ num then ((Binary64.digitCount (num / den) : Nat) : Int) - 1
  else -(risingExponent num den 400 1 : Nat)

/-! ## §2. The interval of a double. -/

/-- The reals that round to one double, over the common denominator `den`. -/
structure Interval where
  low : Nat
  value : Nat
  high : Nat
  den : Nat
  /-- Whether the end points belong to it. -/
  closed : Bool

/-- The interval of a positive magnitude.  The gap below a power of two is half
the gap above it. -/
def Interval.ofMagnitude (magnitude : Nat) : Interval :=
  let m := Binary64.significand magnitude
  let (num, den) := Binary64.scaled 1 (Binary64.exponent magnitude)
  let lowGap := if m = Nat.pow 2 52 ∧ Nat.pow 2 53 ≤ magnitude then 1 else 2
  ⟨(4 * m - lowGap) * num, 4 * m * num, (4 * m + 2) * num, 4 * den, m % 2 == 0⟩

/-- Whether `n * 10 ^ e` lies in the interval. -/
def Interval.holds (i : Interval) (n : Nat) (e : Int) : Bool :=
  let (a, b) := scaleTen n 1 e
  let x := a * i.den
  if i.closed then i.low * b ≤ x && x ≤ i.high * b
  else i.low * b < x && x < i.high * b

/-! ## §3. The search. -/

/-- The grid point next to the value that lies in the interval, the nearer one
if both do and the even one if both are equally near. -/
def onGrid (i : Interval) (e : Int) : Option Nat :=
  let (a, b) := scaleTen i.value i.den (-e)
  let below := a / b
  let rest := a % b
  match i.holds below e, i.holds (below + 1) e with
  | false, false => none
  | true, false => some below
  | false, true => some (below + 1)
  | true, true =>
    if 2 * rest < b then some below
    else if b < 2 * rest then some (below + 1)
    else some (below + below % 2)

/-- The first hit on grids of increasing fineness. -/
def search (i : Interval) (e : Int) : Nat → Decimal
  | 0 => ⟨0, 0⟩
  | fuel + 1 =>
    match onGrid i e with
    | some n => ⟨n, e⟩
    | none => search i (e - 1) fuel

/-- The shortest decimal that reads back as the positive magnitude. -/
def shortest (magnitude : Nat) : Decimal :=
  let (num, den) := Binary64.ratio magnitude
  search (Interval.ofMagnitude magnitude) (leadingExponent num den) 18

/-- The digits without trailing zeros and the exponent of the first digit. -/
def scientific (d : Decimal) : List Char × Int :=
  let digits := Nat.toDigits 10 d.digits
  let short := (digits.reverse.dropWhile (· == '0')).reverse
  (short, d.exponent + ((digits.length : Nat) : Int) - 1)

end Decimal

/-! ## §4. How a double is written. -/

/-- Where the notations of a double change over. -/
structure FloatLayout where
  /-- The least exponent written positionally. -/
  lowest : Int
  /-- The greatest exponent written positionally. -/
  highest : Int

/-- Doubles are positional from `0.00001` to below `10 ^ 16`. -/
def FloatLayout.json : FloatLayout := ⟨-5, 15⟩

/-- Digits with the point after the digit of exponent zero, and at least one
digit on either side of it. -/
def positional (digits : List Char) (e : Int) : List Char :=
  if e < 0 then
    '0' :: '.' :: (List.replicate (-e - 1).toNat '0' ++ digits)
  else
    let whole := e.toNat + 1
    let front := digits.take whole ++ List.replicate (whole - digits.length) '0'
    match digits.drop whole with
    | [] => front ++ ['.', '0']
    | fraction => front ++ '.' :: fraction

/-- Digits with an exponent: its sign is always written, a point only between
digits. -/
def exponential (digits : List Char) (e : Int) : List Char :=
  let mantissa := match digits with
    | [] => []
    | [d] => [d]
    | d :: rest => d :: '.' :: rest
  mantissa ++ 'e' :: (if e < 0 then '-' else '+') :: Nat.toDigits 10 e.natAbs

/-- The text of a double. -/
def Binary64.render (layout : FloatLayout) (x : Binary64) : List Char :=
  let sign := if x.negative then ['-'] else []
  if x.isZero then sign ++ ['0', '.', '0']
  else
    let (digits, e) := (Decimal.shortest x.magnitude).scientific
    if layout.lowest ≤ e ∧ e ≤ layout.highest then sign ++ positional digits e
    else sign ++ exponential digits e

end ApiPlaybook
