/-
  ApiPlaybook.Regex.Pattern
  ─────────────────────────
  **READING PATTERNS.**

  A pattern is read from left to right into an expression.  Flags hold from
  where they are set to the end of the group around them, so they are part of
  the state of the reader, as are the groups met so far.  There are no
  references back and no conditions on what stands around a place other than
  the ends of texts, lines and words; a pattern that asks for them is refused.
-/
import ApiPlaybook.Regex.Expr
import ApiPlaybook.Regex.Named
import ApiPlaybook.Text.Blank

namespace ApiPlaybook.Regex

/-! ## §1. The state of the reader. -/

/-- How a part of a pattern is meant. -/
structure Flags where
  ignoreCase : Bool
  multiLine : Bool
  dotAll : Bool
  swapGreed : Bool
  unicode : Bool
  crlf : Bool
  /-- Blanks and comments are skipped. -/
  spaced : Bool
deriving DecidableEq, Inhabited

/-- Where the reader stands. -/
structure PatternState where
  rest : List Char
  flags : Flags
  /-- The number of groups opened so far. -/
  groups : Nat
  /-- Their names. -/
  names : List String

/-- A step of the reader; none refuses the pattern. -/
abbrev PatternReader := StateT PatternState Option

namespace PatternReader

def flags : PatternReader Flags := return (← get).flags

/-- The next character. -/
def next? : PatternReader (Option Char) := return (← get).rest.head?

/-- Skip some characters. -/
def skip (n : Nat) : PatternReader Unit := modify fun s => { s with rest := s.rest.drop n }

/-- The text behind blanks and comments. -/
def dropSpace : Nat → List Char → List Char
  | 0, cs => cs
  | steps + 1, cs =>
    match cs with
    | '#' :: rest => dropSpace steps ((rest.dropWhile (· != '\n')).drop 1)
    | c :: rest => if isBlank c then dropSpace steps rest else cs
    | [] => []

/-- Skip blanks and comments where they do not count. -/
def skipSpace : PatternReader Unit := modify fun s =>
  if s.flags.spaced then { s with rest := dropSpace s.rest.length s.rest } else s

/-- Skip a character and what does not count behind it. -/
def skipOne : PatternReader Unit := do
  skip 1
  skipSpace

/-- The character behind the next one, passing over what does not count. -/
def secondBehindSpace? : PatternReader (Option Char) := do
  let s ← get
  let rest := s.rest.drop 1
  return (if s.flags.spaced then dropSpace rest.length rest else rest).head?

/-- The next character; the pattern must not end here. -/
def need : PatternReader Char := do
  match ← next? with
  | some c => return c
  | none => failure

/-- Take this character or refuse. -/
def expect (c : Char) : PatternReader Unit := do
  if (← next?) == some c then skip 1 else failure

/-- Skip a word if the pattern goes on with it. -/
def takeWord (word : String) : PatternReader Bool := do
  let s ← get
  if word.toList.isPrefixOf s.rest then
    skip word.length
    return true
  return false

/-- The characters that pass, which are skipped one by one. -/
def takeWhile (p : Char → Bool) : Nat → PatternReader (List Char)
  | 0 => return []
  | steps + 1 => do
    match ← next? with
    | some c =>
      if p c then
        skipOne
        return c :: (← takeWhile p steps)
      else return []
    | none => return []

/-- A bound on the steps that are left. -/
def left : PatternReader Nat := return (← get).rest.length

end PatternReader

open PatternReader

/-! ## §2. Flags. -/

/-- Set a flag by its letter. -/
def Flags.put? (f : Flags) (value : Bool) : Char → Option Flags
  | 'i' => some { f with ignoreCase := value }
  | 'm' => some { f with multiLine := value }
  | 's' => some { f with dotAll := value }
  | 'U' => some { f with swapGreed := value }
  | 'u' => some { f with unicode := value }
  | 'R' => some { f with crlf := value }
  | 'x' => some { f with spaced := value }
  | _ => none

/-- The flags that letters set; those behind a hyphen are taken back.  A letter
stands once, and one stands behind the hyphen. -/
def Flags.ofLetters? (f : Flags) (letters : List Char) : Option Flags := do
  if !letters.Nodup || letters.getLast? == some '-' then none
  let on := letters.takeWhile (· != '-')
  let off := (letters.dropWhile (· != '-')).drop 1
  let f ← on.foldlM (fun f c => f.put? true c) f
  off.foldlM (fun f c => f.put? false c) f

/-! ## §3. Escapes. -/

/-- What an escape or a character denotes. -/
inductive Atom where
  /-- A character; `byte` marks one given by two hexadecimal digits. -/
  | char (c : Char) (byte : Bool)
  | set (s : CharSet)
  | look (l : Look)

/-- The value of a hexadecimal digit. -/
def hexDigit? (c : Char) : Option Nat :=
  if c.isDigit then some (c.toNat - 48)
  else if 'a' ≤ c ∧ c ≤ 'f' then some (c.toNat - 87)
  else if 'A' ≤ c ∧ c ≤ 'F' then some (c.toNat - 55)
  else none

/-- The character of a code point in hexadecimal digits. -/
def charOfHex? (digits : List Char) : Option Char := do
  if digits.isEmpty then none
  let n ← digits.foldlM (fun n c => (hexDigit? c).map fun d => 16 * n + d) 0
  if h : n.isValidChar then some (Char.ofNatAux n h) else none

/-- Exactly that many hexadecimal digits. -/
def readHexDigits : Nat → PatternReader (List Char)
  | 0 => return []
  | n + 1 => do
    let c ← need
    if (hexDigit? c).isNone then failure
    skipOne
    return c :: (← readHexDigits n)

/-- A character by its code point, behind `x`, `u` or `U`. -/
def readHex (letter : Char) : PatternReader Atom := do
  skipOne
  if (← need) == '\x7b' then
    skipOne
    let digits ← takeWhile (fun c => c != '\x7d') (← left)
    if !(digits.all fun c => (hexDigit? c).isSome) then failure
    if (← need) != '\x7d' then failure
    skipOne
    return .char (← charOfHex? digits) false
  let width := if letter == 'x' then 2 else if letter == 'u' then 4 else 8
  let digits ← readHexDigits width
  return .char (← charOfHex? digits) (letter == 'x')

/-- Case is folded before a class is negated. -/
def foldAndNegate (negated : Bool) (s : CharSet) : PatternReader CharSet := do
  let f ← flags
  if f.unicode then
    let s := if f.ignoreCase then s.foldCase else s
    return if negated then s.complement else s
  let s := if f.ignoreCase then s.foldAsciiCase else s
  if negated || !s.isAscii then failure
  return s

/-- The parts of a name around an equality sign. -/
def splitValue (name : List Char) : Option (List Char × List Char) :=
  let unequal := (List.range name.length).find? fun i =>
    name[i]? == some '!' && name[i + 1]? == some '='
  match unequal with
  | some i => some (name.take i, name.drop (i + 2))
  | none => (splitFirst ':' name).or (splitFirst '=' name)

/-- A property of Unicode, behind `p` or `P`. -/
def readProperty (negated : Bool) : PatternReader Atom := do
  skipOne
  let c ← need
  let found ←
    if c == '\x7b' then do
      skipOne
      let name ← takeWhile (fun c => c != '\x7d') (← left)
      expect '\x7d'
      pure (match splitValue name with
        | some (name, value) => CharSet.valued? (String.ofList name) (String.ofList value)
        | none => CharSet.named? (String.ofList name))
    else do
      if c == '\\' then failure
      skipOne
      pure (CharSet.named? (String.singleton c))
  if !(← flags).unicode then failure
  return .set (← foldAndNegate negated (← found))

/-- Digits, blanks or word characters. -/
def shorthand (letter : Char) : PatternReader Atom := do
  let unicode := (← flags).unicode
  let s := match letter.toLower with
    | 'd' => if unicode then CharSet.digit else .asciiDigit
    | 's' => if unicode then .blank else .asciiBlank
    | _ => if unicode then .word else .asciiWord
  if letter.isUpper then
    if !unicode then failure
    return .set s.complement
  return .set s

/-- The edges of words that have names. -/
def wordEdge? : String → Option WordEdge
  | "start" => some .start
  | "end" => some .end
  | "start-half" => some .startHalf
  | "end-half" => some .endHalf
  | _ => none

/-- The edge of a word that is meant behind `b`. -/
def readWordEdge : PatternReader WordEdge := do
  let s ← get
  if (← next?) != some '\x7b' then return .boundary
  skipOne
  let isNameChar (c : Char) : Bool := c.isAlpha || c == '-'
  if !isNameChar (← need) then
    set s
    return .boundary
  let name ← takeWhile isNameChar (← left)
  expect '\x7d'
  wordEdge? (String.ofList name)

/-- Characters that may be escaped though they mean themselves. -/
def isEscapable (c : Char) : Bool :=
  c.toNat < 0x80 && !c.isAlphanum && c != '<' && c != '>'

/-- An escape. -/
def readEscape : PatternReader Atom := do
  expect '\\'
  let c ← need
  let unicode := (← flags).unicode
  match c with
  | 'x' => readHex c
  | 'u' => readHex c
  | 'U' => readHex c
  | 'p' => readProperty false
  | 'P' => readProperty true
  | _ =>
    skip 1
    if ['d', 's', 'w', 'D', 'S', 'W'].contains c then shorthand c
    else match c with
      | 'a' => return .char '\x07' false
      | 'f' => return .char '\x0c' false
      | 't' => return .char '\t' false
      | 'n' => return .char '\n' false
      | 'r' => return .char '\r' false
      | 'v' => return .char '\x0b' false
      | 'A' => return .look .textStart
      | 'z' => return .look .textEnd
      | 'b' => return .look (.word (← readWordEdge) unicode)
      | 'B' => return .look (.word .inside unicode)
      | '<' => return .look (.word .start unicode)
      | '>' => return .look (.word .end unicode)
      | c => if isEscapable c then return .char c false else failure

/-- A character as an expression. -/
def charExpr (c : Char) (byte : Bool) : PatternReader Expr := do
  let f ← flags
  if !f.unicode && byte && 0x7f < c.toNat then failure
  if f.ignoreCase then
    let s := CharSet.ofChar c
    return .set (if f.unicode then .ofRanges ((Unicode.orbit c.toNat).map fun n => (n, n))
      else s.foldAsciiCase)
  return .set (.ofChar c)

/-! ## §4. Classes. -/

/-- What is read of a class: its characters, and how deeply classes are nested
in it. -/
structure ClassPart where
  set : CharSet
  depth : Nat

/-- The items of a class read so far. -/
structure ClassItems where
  set : CharSet
  count : Nat
  depth : Nat

def ClassItems.none : ClassItems := ⟨.empty, 0, 0⟩

def ClassItems.add (items : ClassItems) (s : CharSet) (depth : Nat) : ClassItems :=
  ⟨items.set.union s, items.count + 1, max items.depth depth⟩

/-- The items as one part. -/
def ClassItems.part (items : ClassItems) : ClassPart :=
  ⟨items.set, if items.count ≤ 1 then items.depth else items.depth + 1⟩

/-- An operation on classes. -/
inductive ClassOp where
  | intersection
  | difference
  | symmetricDifference

/-- The operation that the next two characters denote. -/
def ClassOp.at? : List Char → Option ClassOp
  | '&' :: '&' :: _ => some .intersection
  | '-' :: '-' :: _ => some .difference
  | '~' :: '~' :: _ => some .symmetricDifference
  | _ => none

/-- Combine what stands in front of an operation with what stands behind it. -/
def combine (f : Flags) : Option (ClassPart × ClassOp) → ClassPart → ClassPart
  | none, right => right
  | some (left, op), right =>
    let folded (s : CharSet) : CharSet :=
      if f.ignoreCase then if f.unicode then s.foldCase else s.foldAsciiCase else s
    let s := folded left.set
    let t := folded right.set
    ⟨match op with
      | .intersection => s.inter t
      | .difference => s.diff t
      | .symmetricDifference => s.symmDiff t,
      max left.depth right.depth + 1⟩

/-- The class of POSIX at the next bracket, with the text behind it. -/
def posixAt? (cs : List Char) : Option (Bool × CharSet × List Char) :=
  match cs with
  | '[' :: ':' :: rest =>
    let (negated, rest) := match rest with
      | '^' :: rest => (true, rest)
      | rest => (false, rest)
    match rest.dropWhile (· != ':') with
    | ':' :: ']' :: behind =>
      (CharSet.posix? (String.ofList (rest.takeWhile (· != ':')))).map fun s =>
        (negated, s, behind)
    | _ => none
  | _ => none

/-- A character or an escape inside a class. -/
def readClassAtom : PatternReader Atom := do
  let c ← need
  if c == '\\' then readEscape
  else
    skip 1
    return .char c false

/-- A character of a class must be given as a character. -/
def classChar : Atom → PatternReader Char
  | .char c _ => do
    let f ← flags
    if !f.unicode && 0x7f < c.toNat then failure
    return c
  | _ => failure

/-- An item of a class: a character, a range or a named class. -/
def readClassItem : PatternReader CharSet := do
  let first ← readClassAtom
  skipSpace
  let c ← need
  let behind ← secondBehindSpace?
  if c != '-' || behind == some ']' || behind == some '-' then
    match first with
    | .set s => return s
    | _ => return .ofChar (← classChar first)
  skipOne
  let _ ← need
  let a ← classChar first
  let b ← classChar (← readClassAtom)
  if b < a then failure
  return ⟨[(a.toNat, b.toNat)]⟩

mutual

/-- A class in brackets. -/
def readClass : Nat → PatternReader ClassPart
  | 0 => failure
  | steps + 1 => do
    expect '['
    skipSpace
    let negated := (← need) == '^'
    if negated then skipOne
    let hyphens ← takeWhile (· == '-') (← left)
    let items := if hyphens.isEmpty then ClassItems.none
      else ⟨.ofChar '-', hyphens.length, 0⟩
    let bracket := hyphens.isEmpty && (← need) == ']'
    if bracket then skipOne
    let items := if bracket then items.add (.ofChar ']') 0 else items
    let _ ← need
    let part ← readClassItems none items steps
    let s ← foldAndNegate negated part.set
    return ⟨s, part.depth + 1⟩

/-- The items of a class up to its closing bracket. -/
def readClassItems (before : Option (ClassPart × ClassOp)) (items : ClassItems) :
    Nat → PatternReader ClassPart
  | 0 => failure
  | steps + 1 => do
    skipSpace
    let c ← need
    let cs := (← get).rest
    if c == ']' then
      skip 1
      return combine (← flags) before items.part
    if c == '[' then
      match posixAt? cs with
      | some (negated, s, rest) =>
        modify fun state => { state with rest := rest }
        let s ← foldAndNegate negated s
        readClassItems before (items.add s 0) steps
      | none =>
        let inner ← readClass steps
        readClassItems before (items.add inner.set inner.depth) steps
    else match ClassOp.at? cs with
      | some op =>
        skip 2
        let part := combine (← flags) before items.part
        readClassItems (some (part, op)) .none steps
      | none =>
        let s ← readClassItem
        readClassItems before (items.add s 0) steps

end

/-! ## §5. Groups and repetitions. -/

/-- A part of a pattern with its depth; flags that are set have none. -/
structure Part where
  expr : Option Expr
  depth : Nat

/-- Characters of the name of a group. -/
def isGroupNameChar (first : Bool) (c : Char) : Bool :=
  c == '_' || CharSet.holds (if first then .letter else .letterOrNumber) c.toNat
    || (!first && (c == '.' || c == '[' || c == ']'))

/-- The name of a group, up to its closing angle bracket. -/
def readGroupName : PatternReader Unit := do
  let s ← get
  let name := s.rest.takeWhile (· != '>')
  match name with
  | [] => failure
  | c :: rest =>
    if !isGroupNameChar true c || !rest.all (isGroupNameChar false) then failure
  skip name.length
  expect '>'
  let name := String.ofList name
  if s.names.contains name then failure
  modify fun s => { s with names := name :: s.names }

/-- How a group opens. -/
inductive Opening where
  /-- Flags for the rest of the group around. -/
  | flags (f : Flags)
  | plain (f : Flags)
  | capturing (index : Nat)

/-- Count one more group. -/
def nextGroup : PatternReader Nat := do
  modify fun s => { s with groups := s.groups + 1 }
  return (← get).groups

/-- What stands behind the parenthesis that opens a group. -/
def readOpening : PatternReader Opening := do
  skipOne
  let s ← get
  if ["?=", "?!", "?<=", "?<!"].any fun w => w.toList.isPrefixOf s.rest then failure
  if ← takeWord "?P<" then
    let n ← nextGroup
    readGroupName
    return .capturing n
  if ← takeWord "?<" then
    let n ← nextGroup
    readGroupName
    return .capturing n
  if ← takeWord "?" then
    let s ← get
    let letters := s.rest.takeWhile fun c => c != ':' && c != ')'
    let f ← s.flags.ofLetters? letters
    skip letters.length
    let c ← need
    skip 1
    if c == ')' then
      if letters.isEmpty then failure
      return .flags f
    return .plain f
  return .capturing (← nextGroup)

/-- A number with blanks around it. -/
def readCount : PatternReader (Option Nat) := do
  modify fun s => { s with rest := s.rest.dropWhile isBlank }
  let digits ← takeWhile Char.isDigit (← left)
  let _ ← takeWhile isBlank (← left)
  if digits.isEmpty then return none
  let n := Nat.ofDigitChars 10 digits 0
  if n < UInt32.size then return some n else failure

/-- The bounds of a repetition in braces. -/
def readBounds : PatternReader (Nat × Option Nat) := do
  skipOne
  let _ ← need
  let least ← readCount
  let c ← need
  if c != ',' then return (← least, ← least)
  skipOne
  if (← need) == '\x7d' then return (← least, none)
  let most ← readCount
  return (← least, some (← most))

/-- The greed of a repetition. -/
def readGreed : PatternReader Bool := do
  let lazy := (← next?) == some '?'
  if lazy then skip 1
  return lazy == (← flags).swapGreed

/-- The repetition of the last part, which must be there. -/
def repeatLast (least : Nat) (most : Option Nat) :
    List Part → PatternReader (List Part)
  | ⟨some e, depth⟩ :: before => do
    let greedy ← readGreed
    if most.any (· < least) then failure
    return ⟨some (e.repeated least most greedy), depth + 1⟩ :: before
  | _ => failure

/-- Parts in reverse order, one after the other. -/
def concatenation (parts : List Part) : Expr × Nat :=
  let e := match parts.filterMap (·.expr) with
    | [] => Expr.empty
    | e :: rest => rest.foldl (fun acc f => .seq f acc) e
  let depth := parts.foldl (fun n p => max n p.depth) 0
  (e, if parts.length ≤ 1 then depth else depth + 1)

/-- Alternatives in reverse order. -/
def alternation : List (Expr × Nat) → Expr × Nat
  | [] => (.empty, 0)
  | [one] => one
  | last :: rest =>
    let depth := rest.foldl (fun n p => max n p.2) last.2
    (rest.foldl (fun acc p => .alt p.1 acc) last.1, depth + 1)

/-- The greatest depth of an accepted pattern. -/
def maxDepth : Nat := 250

/-- A character that means itself, a dot or an anchor. -/
def readPlain (c : Char) : PatternReader Expr := do
  let f ← flags
  match c with
  | '.' =>
    skip 1
    if !f.unicode then failure
    if f.dotAll then return .set CharSet.empty.complement
    let ends := if f.crlf then [(10, 10), (13, 13)] else [(10, 10)]
    return .set (CharSet.complement ⟨ends⟩)
  | '^' =>
    skip 1
    return .look (if f.multiLine then .lineStart f.crlf else .textStart)
  | '$' =>
    skip 1
    return .look (if f.multiLine then .lineEnd f.crlf else .textEnd)
  | '\\' =>
    match ← readEscape with
    | .char c byte => charExpr c byte
    | .set s => return .set s
    | .look l => return .look l
  | c =>
    skip 1
    charExpr c false

mutual

/-- The group at the next parenthesis; flags that are set are no group. -/
def readGroup : Nat → PatternReader Part
  | 0 => failure
  | steps + 1 => do
    let outer ← flags
    match ← readOpening with
    | .flags f =>
      modify fun s => { s with flags := f }
      return ⟨none, 0⟩
    | .plain f =>
      modify fun s => { s with flags := f }
      let (e, depth) ← readAlternatives [] [] steps
      expect ')'
      modify fun s => { s with flags := outer }
      return ⟨some e, depth + 1⟩
    | .capturing index =>
      let (e, depth) ← readAlternatives [] [] steps
      expect ')'
      modify fun s => { s with flags := outer }
      return ⟨some (.group index e), depth + 1⟩

/-- Alternatives up to the end of the group or of the pattern.  The parts of the
current one and the alternatives in front of it are kept in reverse order. -/
def readAlternatives (done : List (Expr × Nat)) (parts : List Part) :
    Nat → PatternReader (Expr × Nat)
  | 0 => failure
  | steps + 1 => do
    skipSpace
    match ← next? with
    | none => return alternation (concatenation parts :: done)
    | some ')' => return alternation (concatenation parts :: done)
    | some '|' =>
      skip 1
      readAlternatives (concatenation parts :: done) [] steps
    | some '(' =>
      let part ← readGroup steps
      readAlternatives done (part :: parts) steps
    | some '[' =>
      let part ← readClass steps
      readAlternatives done (⟨some (.set part.set), part.depth⟩ :: parts) steps
    | some '?' =>
      skip 1
      readAlternatives done (← repeatLast 0 (some 1) parts) steps
    | some '*' =>
      skip 1
      readAlternatives done (← repeatLast 0 none parts) steps
    | some '+' =>
      skip 1
      readAlternatives done (← repeatLast 1 none parts) steps
    | some '\x7b' =>
      let (least, most) ← readBounds
      if (← need) != '\x7d' then failure
      skipOne
      readAlternatives done (← repeatLast least most parts) steps
    | some c =>
      let e ← readPlain c
      readAlternatives done (⟨some e, 0⟩ :: parts) steps

end

/-- The flags in force at the start of a pattern. -/
def Flags.start : Flags := ⟨false, false, false, false, true, false, false⟩

/-- The expression that a pattern denotes, unless it is refused. -/
def Expr.ofPattern? (pattern : String) : Option Expr := do
  let cs := pattern.toList
  let ((e, depth), s) ← (readAlternatives [] [] (2 * cs.length + 2)).run ⟨cs, .start, 0, []⟩
  if !s.rest.isEmpty || maxDepth < depth || Expr.maxSize < e.size then none
  return e

end ApiPlaybook.Regex
