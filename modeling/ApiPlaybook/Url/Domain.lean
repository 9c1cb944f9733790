/-
  ApiPlaybook.Url.Domain
  ──────────────────────
  **DOMAIN NAMES.**

  A domain name is brought into its ASCII form: characters are mapped, composed
  and cut at full stops into labels; a label with other characters than ASCII
  is written in Punycode.  Every label, also one that is given in Punycode, has
  to be valid: made of characters that mapping keeps, and composed.  Joiners
  stand only where the script needs them, and names that mix writing directions
  follow the rule for these.
-/
import ApiPlaybook.Text.Blank
import ApiPlaybook.Unicode.Category
import ApiPlaybook.Unicode.Direction
import ApiPlaybook.Unicode.DomainMapping
import ApiPlaybook.Unicode.Normal
import ApiPlaybook.Url.Punycode

namespace ApiPlaybook.Url.Domain

open Unicode

/-! ## §1. Characters. -/

/-- ASCII characters that no domain name holds. -/
def isForbidden (n : Nat) : Bool :=
  n ≤ 0x20 || n == 0x7f || ("%#/:<>?@[\\]^|".toList.map Char.toNat).contains n

def isAscii (label : List Nat) : Bool := label.all (· < 0x80)

/-- What becomes of a code point: ASCII letters are put in lower case, other
ASCII characters are kept, and for the rest there is a table. -/
def form? (n : Nat) : Option (List Nat) :=
  if n < 0x80 then some [if 0x41 ≤ n ∧ n ≤ 0x5a then n + 0x20 else n] else domainForm? n

/-- The composed form of a text; ASCII characters are not composed with each
other. -/
def composed (ns : List Nat) : List Nat := if isAscii ns then ns else normalForm ns

/-- The code points of a name after mapping. -/
def mapped? (ns : List Nat) : Option (List Nat) := do
  return composed (← ns.mapM form?).flatten

/-- Whether a code point is that of a character which mapping keeps. -/
def isKept (n : Nat) : Bool := decide n.isValidChar && form? n == some [n]

/-- Whether a code point is a mark; none in ASCII is. -/
def isMark (n : Nat) : Bool := 0x80 ≤ n && (category n).isMark

/-! ## §2. Labels. -/

def isVirama (n : Nat) : Bool := combiningClass n == 9

/-- Whether a zero-width non-joiner may stand between these texts, the first of
them given in reverse. -/
def breaksJoining (before after : List Nat) : Bool :=
  let visible (ns : List Nat) : Option String :=
    (ns.dropWhile fun n => joining n == "T").head?.map joining
  (match visible before with
    | some k => k == "L" || k == "D"
    | none => false)
  && (match visible after with
    | some k => k == "R" || k == "D"
    | none => false)

/-- Whether every joiner of a label stands where one may stand. -/
def joinersFit (before : List Nat) : List Nat → Bool
  | [] => true
  | n :: rest =>
    let fits :=
      if n = 0x200c then before.head?.any isVirama || breaksJoining before rest
      else if n = 0x200d then before.head?.any isVirama
      else true
    fits && joinersFit (n :: before) rest

/-- Whether a label is made of characters that are kept, and composed. -/
def isValid (label : List Nat) : Bool := label.all isKept && composed label == label

/-- Whether a label is valid, has no mark in front and fitting joiners. -/
def isSound (label : List Nat) : Bool :=
  isValid label && !label.head?.any isMark && joinersFit [] label

/-- The characters that a label stands for; Punycode is read. -/
def labelMeaning? (label : List Nat) : Option (List Nat) :=
  match label with
  | 0x78 :: 0x6e :: 0x2d :: 0x2d :: rest => do
    let meaning ← Punycode.decode? (rest.map Char.ofNat)
    guard (isAscii label && !isAscii meaning)
    guard (!meaning.any isForbidden && !meaning.contains 0x2e)
    guard (isSound meaning)
    return meaning
  | _ => do
    guard (isSound label)
    return label

/-- The written form of a label. -/
def labelText (label : List Nat) : List Char :=
  if isAscii label then label.map Char.ofNat else "xn--".toList ++ Punycode.encode label

/-! ## §3. Directions. -/

/-- Whether a character makes a name one that is written from right to left; none
in ASCII does. -/
def isRightToLeft (n : Nat) : Bool := 0x80 ≤ n && ["R", "AL", "AN"].contains (direction n)

/-- The rule for the labels of a name with characters from right to left. -/
def followsDirectionRule (label : List Nat) : Bool :=
  let ks := label.map direction
  let last := (ks.reverse.dropWhile (· == "NSM")).head?
  match ks.head? with
  | none => true
  | some "L" =>
    ks.all (["L", "EN", "ES", "CS", "ET", "ON", "BN", "NSM"].contains ·)
      && last.any (["L", "EN"].contains ·)
  | some k =>
    (k == "R" || k == "AL")
      && ks.all (["R", "AL", "AN", "EN", "ES", "CS", "ET", "ON", "BN", "NSM"].contains ·)
      && last.any (["R", "AL", "EN", "AN"].contains ·)
      && !(ks.contains "EN" && ks.contains "AN")

/-! ## §4. Names. -/

/-- The parts of a name between full stops. -/
def labels : List Nat → List (List Nat)
  | [] => [[]]
  | n :: rest =>
    if n = 0x2e then [] :: labels rest
    else match labels rest with
      | [] => [[n]]
      | label :: more => (n :: label) :: more

/-- The ASCII form of a name. -/
def toAscii? (cs : List Char) : Option (List Char) := do
  let ns ← mapped? (cs.map Char.toNat)
  guard (!ns.any isForbidden)
  let meanings ← (labels ns).mapM labelMeaning?
  guard (!(meanings.any (·.any isRightToLeft)) || meanings.all followsDirectionRule)
  return ['.'].intercalate (meanings.map labelText)

end ApiPlaybook.Url.Domain
