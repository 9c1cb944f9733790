/-
  ApiPlaybook.Url.Host
  ────────────────────
  **HOSTS.**

  A host is a domain name or an address.  Where the scheme is a special one a
  name is brought into its ASCII form, and a name whose last label is a number
  has to be an address of four bytes.  Other schemes take almost any name.
-/
import ApiPlaybook.Url.Domain
import ApiPlaybook.Url.Percent

namespace ApiPlaybook.Url

/-! ## §1. Errors. -/

/-- Why a text is no URL. -/
inductive UrlError where
  | relative
  | emptyHost
  | badPort
  | badIpv4
  | badIpv6
  | badDomain
  | badDomainCharacter
deriving DecidableEq, Inhabited

def UrlError.message : UrlError → String
  | .relative => "relative URL without a base"
  | .emptyHost => "empty host"
  | .badPort => "invalid port number"
  | .badIpv4 => "invalid IPv4 address"
  | .badIpv6 => "invalid IPv6 address"
  | .badDomain => "invalid international domain name"
  | .badDomainCharacter => "invalid domain character"

/-! ## §2. Hosts. -/

/-- A host. -/
inductive Host where
  /-- A name, as it is written; it may be empty. -/
  | name (text : List Char)
  | ipv4 (address : Nat)
  /-- Eight numbers of 16 bits. -/
  | ipv6 (pieces : List Nat)
deriving DecidableEq, Inhabited

namespace Host

/-- Lengths of the runs of zeros that start at each piece. -/
def zeroRuns : List Nat → List Nat
  | [] => []
  | p :: rest =>
    let runs := zeroRuns rest
    (if p = 0 then runs.headD 0 + 1 else 0) :: runs

/-- The numbers of an address in hexadecimal, with colons between them. -/
def piecesText (pieces : List Nat) : List Char :=
  [':'].intercalate (pieces.map (Nat.toDigits 16))

/-- An address of eight numbers; the first of the longest runs of zeros is left
out if it has two or more. -/
def ipv6Text (pieces : List Nat) : List Char :=
  let runs := zeroRuns pieces
  let longest := runs.foldl max 0
  if longest < 2 then piecesText pieces
  else
    let start := runs.findIdx (· == longest)
    piecesText (pieces.take start) ++ "::".toList ++ piecesText (pieces.drop (start + longest))

/-- The host as it is written. -/
def text : Host → List Char
  | .name text => text
  | .ipv4 a =>
    ['.'].intercalate ([a / 16777216, a / 65536 % 256, a / 256 % 256, a % 256].map (Nat.toDigits 10))
  | .ipv6 pieces => '[' :: (ipv6Text pieces ++ [']'])

def isEmpty (h : Host) : Bool := h == .name []

/-! ## §3. Addresses of four bytes. -/

/-- A number in digits of a base. -/
def numberIn? (base : Nat) (cs : List Char) : Option Nat :=
  cs.foldlM (fun n c => do
    let d ← hexValue? c
    if d < base then some (n * base + d) else none) 0

/-- A part of an address: hexadecimal behind `0x`, octal behind `0`. -/
def ipv4Number? : List Char → Option Nat
  | [] => none
  | '0' :: 'x' :: rest => numberIn? 16 rest
  | '0' :: 'X' :: rest => numberIn? 16 rest
  | '0' :: c :: rest => numberIn? 8 (c :: rest)
  | cs => numberIn? 10 cs

/-- The labels of a name, without an empty one at the end. -/
def addressParts (cs : List Char) : List (List Char) :=
  let parts := splitAll '.' cs
  match parts.getLast? with
  | some [] => parts.dropLast
  | _ => parts

/-- Whether the last label of a name is a number. -/
def endsInNumber (cs : List Char) : Bool :=
  match (addressParts cs).getLast? with
  | none => false
  | some last => (!last.isEmpty && last.all Char.isDigit) || (ipv4Number? last).isSome

/-- Read an address of four bytes: the last part holds the bytes that the parts
before it leave. -/
def ipv4? (cs : List Char) : Option Nat := do
  let parts := addressParts cs
  if 4 < parts.length then none
  let numbers ← parts.mapM ipv4Number?
  let last ← numbers.getLast?
  let front := numbers.dropLast
  let left := Nat.pow 256 (4 - front.length)
  if front.any (255 < ·) || left ≤ last then none
  return front.foldl (fun n byte => 256 * n + byte) 0 * left + last

/-! ## §4. Addresses of eight numbers. -/

/-- A decimal number up to 255 without zeros in front. -/
def byte? (cs : List Char) : Option Nat := do
  if cs.isEmpty || !cs.all Char.isDigit || (1 < cs.length && cs.head? == some '0') then none
  let n ← numberIn? 10 cs
  if 255 < n then none
  return n

/-- The two numbers of an address of four bytes in decimal. -/
def embedded? (cs : List Char) : Option (List Nat) := do
  match ← (splitAll '.' cs).mapM byte? with
  | [a, b, c, d] => some [256 * a + b, 256 * c + d]
  | _ => none

/-- The numbers between colons; the last one may be an address of four bytes. -/
def pieces? : List (List Char) → Option (List Nat)
  | [] => some []
  | [last] =>
    if last.contains '.' then embedded? last
    else if last.isEmpty || 4 < last.length then none
    else (numberIn? 16 last).map fun n => [n]
  | part :: rest => do
    if part.isEmpty || 4 < part.length then none
    return (← numberIn? 16 part) :: (← pieces? rest)

/-- The numbers of a text, none if it is empty. -/
def piecesOf? (cs : List Char) : Option (List Nat) :=
  if cs.isEmpty then some [] else pieces? (splitAll ':' cs)

/-- The parts of a text around its first double colon. -/
def splitDoubleColon : List Char → Option (List Char × List Char)
  | ':' :: ':' :: rest => some ([], rest)
  | c :: rest => (splitDoubleColon rest).map fun (a, b) => (c :: a, b)
  | [] => none

/-- Read an address of eight numbers; a double colon stands for at least one
zero. -/
def ipv6? (cs : List Char) : Option (List Nat) := do
  match splitDoubleColon cs with
  | none =>
    let pieces ← piecesOf? cs
    guard (pieces.length == 8)
    return pieces
  | some (front, back) =>
    if front.contains '.' then none
    let front ← piecesOf? front
    let back ← piecesOf? back
    guard (front.length + back.length < 8)
    return front ++ List.replicate (8 - front.length - back.length) 0 ++ back

/-! ## §5. Reading. -/

/-- An address in brackets. -/
def bracketed (cs : List Char) : Except UrlError Host :=
  match cs.reverse with
  | ']' :: inner =>
    match ipv6? inner.reverse with
    | some pieces => .ok (.ipv6 pieces)
    | none => .error .badIpv6
  | _ => .error .badIpv6

/-- The host of a URL with a special scheme. -/
def ofSpecial (cs : List Char) : Except UrlError Host :=
  match cs with
  | '[' :: rest => bracketed rest
  | _ =>
    match (utf8Text? (percentDecode cs)).bind Domain.toAscii? with
    | none => .error .badDomain
    | some [] => .error .emptyHost
    | some domain =>
      if endsInNumber domain then
        match ipv4? domain with
        | some address => .ok (.ipv4 address)
        | none => .error .badIpv4
      else .ok (.name domain)

/-- Refused in the host of a URL with another scheme. -/
def isRefused (c : Char) : Bool :=
  [0, 9, 10, 13].contains c.toNat || " #/:<>?@[\\]^|".toList.contains c

/-- The host of a URL with another scheme. -/
def ofOther (cs : List Char) : Except UrlError Host :=
  match cs with
  | '[' :: rest => bracketed rest
  | _ =>
    if cs.any isRefused then .error .badDomainCharacter
    else .ok (.name (escape escapedAlways cs))

end Host

end ApiPlaybook.Url
