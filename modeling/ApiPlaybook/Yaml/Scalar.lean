/-
  ApiPlaybook.Yaml.Scalar
  ───────────────────────
  **WHAT A SCALAR STANDS FOR.**

  A plain scalar without a tag is a null, a truth value, an integer or a number
  if it is written like one, and a text otherwise.  Integers may have a base
  (`0x1F`, `0o17`, `0b101`); digits behind a superfluous zero are a text.  A tag
  of the core schema asks for one kind; quoted scalars are texts.
-/
import ApiPlaybook.Number.Binary64
import ApiPlaybook.Yaml.Node

namespace ApiPlaybook.Yaml

/-- A double, infinities and the undefined number included. -/
inductive Real where
  | finite (x : Binary64)
  | infinite (negative : Bool)
  | undefined
deriving DecidableEq

/-- What a scalar stands for. -/
inductive Resolved where
  | null
  | bool (b : Bool)
  | integer (i : Int)
  /-- An integer of more than 64 bits and at most 128 bits. -/
  | wide
  | real (x : Real)
  | text (s : String)

/-! ## §1. Spellings. -/

def isNull (s : String) : Bool := ["null", "Null", "NULL", "~"].contains s

def bool? (s : String) : Option Bool :=
  if ["true", "True", "TRUE"].contains s then some true
  else if ["false", "False", "FALSE"].contains s then some false
  else none

/-- The number that digits denote in a base. -/
def digits? (base : Nat) (cs : List Char) : Option Nat :=
  if cs.isEmpty then none
  else cs.foldlM (fun n c => do
    let d ← hexValue? c
    if d < base then return base * n + d else none) 0

/-- Decimal digits behind a superfluous zero. -/
def isZeroPadded (cs : List Char) : Bool :=
  let cs := match cs with
    | '+' :: rest => rest
    | '-' :: rest => rest
    | cs => cs
  match cs with
  | '0' :: c :: rest => (c :: rest).all Char.isDigit
  | _ => false

/-- Digits with a base in front of them. -/
def basedDigits? : List Char → Option Nat
  | '0' :: 'x' :: rest => digits? 16 rest
  | '0' :: 'o' :: rest => digits? 8 rest
  | '0' :: 'b' :: rest => digits? 2 rest
  | cs => digits? 10 cs

/-- The integer that a plain scalar denotes. -/
def integer? (cs : List Char) : Option Int :=
  if isZeroPadded cs then none
  else match cs with
    | '-' :: rest => (basedDigits? rest).map fun n => -(n : Int)
    | '+' :: rest => (basedDigits? rest).map Int.ofNat
    | cs => (basedDigits? cs).map Int.ofNat

/-- The exponent behind the digits of a number. -/
def exponent? : List Char → Option Int
  | [] => some 0
  | c :: rest =>
    if c == 'e' || c == 'E' then
      match rest with
      | '-' :: rest => (digits? 10 rest).map fun n => -(n : Int)
      | '+' :: rest => (digits? 10 rest).map Int.ofNat
      | rest => (digits? 10 rest).map Int.ofNat
    else none

/-- The double that decimal digits, a fraction and an exponent denote, unless
it is too large. -/
def finite? (negative : Bool) (cs : List Char) : Option Binary64 :=
  let whole := cs.takeWhile Char.isDigit
  let rest := cs.dropWhile Char.isDigit
  let (fraction, rest) := match rest with
    | '.' :: rest => (rest.takeWhile Char.isDigit, rest.dropWhile Char.isDigit)
    | rest => ([], rest)
  let digits := whole ++ fraction
  if digits.isEmpty then none
  else (exponent? rest).bind fun e =>
    Binary64.ofDecimal? negative (Nat.ofDigitChars 10 digits 0) (e - fraction.length)

/-- The double that a plain scalar denotes. -/
def real? (s : String) : Option Real :=
  if [".inf", ".Inf", ".INF", "+.inf", "+.Inf", "+.INF"].contains s then some (.infinite false)
  else if ["-.inf", "-.Inf", "-.INF"].contains s then some (.infinite true)
  else if [".nan", ".NaN", ".NAN"].contains s then some .undefined
  else match s.toList with
    | '-' :: rest => (finite? true rest).map .finite
    | '+' :: rest => (finite? false rest).map .finite
    | cs => (finite? false cs).map .finite

/-! ## §2. Resolution. -/

/-- An integer as far as it fits. -/
def Resolved.ofInteger? (i : Int) : Option Resolved :=
  if -(Nat.pow 2 63) ≤ i ∧ i < Nat.pow 2 64 then some (.integer i)
  else if -(Nat.pow 2 127) ≤ i ∧ i < Nat.pow 2 128 then some .wide
  else none

/-- What a plain scalar without a tag stands for. -/
def Resolved.ofPlain (s : String) : Resolved :=
  if s.isEmpty || isNull s then .null
  else match bool? s with
    | some b => .bool b
    | none =>
      match (integer? s.toList).bind Resolved.ofInteger? with
      | some r => r
      | none =>
        if isZeroPadded s.toList then .text s
        else match real? s with
          | some x => .real x
          | none => .text s

/-- The tag of the core schema of that name. -/
def coreTag (name : String) : String := "tag:yaml.org,2002:" ++ name

/-- What a scalar stands for; none when it is not what its tag asks for. -/
def Resolved.ofScalar? (tag : Option String) (s : String) (style : ScalarStyle) :
    Option Resolved :=
  let untagged := if style == .plain then Resolved.ofPlain s else .text s
  match tag with
  | none => some untagged
  | some tag =>
    if tag == coreTag "bool" then (bool? s).map .bool
    else if tag == coreTag "int" then (integer? s.toList).bind Resolved.ofInteger?
    else if tag == coreTag "float" then (real? s).map .real
    else if tag == coreTag "null" then if isNull s then some .null else none
    else some (.text s)

end ApiPlaybook.Yaml
