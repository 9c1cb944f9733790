/-
  ApiPlaybook.JsonPath.Reader
  ───────────────────────────
  **READING QUERIES.**

  A written query starts at `$`.  Blanks may stand around selectors and
  operators but not around the query.  A query in a comparison must lead to one
  node at most, by names and indices alone; functions take and give what suits
  their place.
-/
import ApiPlaybook.Json.Reader
import ApiPlaybook.JsonPath.Basic

namespace ApiPlaybook.JsonPath

/-! ## §1. Taking characters. -/

/-- A step that takes characters of a query; none refuses it. -/
abbrev QueryReader := StateT (List Char) Option

namespace QueryReader

def next? : QueryReader (Option Char) := return (← get).head?

def skip (n : Nat) : QueryReader Unit := modify fun cs => cs.drop n

/-- Blanks between the parts of a query. -/
def isSpace (c : Char) : Bool := c == ' ' || c == '\t' || c == '\n' || c == '\r'

def skipSpace : QueryReader Unit := modify fun cs => cs.dropWhile isSpace

/-- Skip a word if the query goes on with it. -/
def take (word : String) : QueryReader Bool := do
  let cs ← get
  if word.toList.isPrefixOf cs then
    skip word.length
    return true
  return false

def expect (word : String) : QueryReader Unit := do
  if !(← take word) then failure

/-- The characters that pass. -/
def takeWhile (p : Char → Bool) : QueryReader (List Char) := do
  let cs ← get
  set (cs.dropWhile p)
  return cs.takeWhile p

end QueryReader

open QueryReader

/-! ## §2. Names, texts, numbers. -/

/-- Characters that a name written behind a dot starts with. -/
def isNameStart (c : Char) : Bool := c.isAlpha || c == '_' || 0x80 ≤ c.toNat

def isNameChar (c : Char) : Bool := isNameStart c || c.isDigit

/-- A name behind a dot. -/
def readName : QueryReader String := do
  match ← next? with
  | some c => if !isNameStart c then failure
  | none => failure
  return String.ofList (← takeWhile isNameChar)

/-- The value of four hexadecimal digits. -/
def readUnit : QueryReader Nat := do
  let digits := (← get).take 4
  if digits.length < 4 then failure
  skip 4
  digits.foldlM (fun n c => (Regex.hexDigit? c).map fun d => 16 * n + d) 0

/-- The character of an escape, behind the backslash. -/
def readEscape (quote : Char) : QueryReader Char := do
  let some c ← next? | failure
  skip 1
  match c with
  | 'b' => return '\x08'
  | 'f' => return '\x0c'
  | 'n' => return '\n'
  | 'r' => return '\r'
  | 't' => return '\t'
  | '/' => return '/'
  | '\\' => return '\\'
  | 'u' =>
    let n ← readUnit
    if 0xd800 ≤ n && n < 0xdc00 then
      expect "\\u"
      let m ← readUnit
      if m < 0xdc00 || 0xe000 ≤ m then failure
      return Char.ofNat (0x10000 + (n - 0xd800) * 0x400 + (m - 0xdc00))
    if 0xdc00 ≤ n && n < 0xe000 then failure
    return Char.ofNat n
  | c => if c == quote then return c else failure

/-- The characters of a quoted text up to its closing quote. -/
def readQuoted (quote : Char) : Nat → List Char → QueryReader String
  | 0, _ => failure
  | steps + 1, acc => do
    let some c ← next? | failure
    skip 1
    if c == quote then return String.ofList acc.reverse
    if c == '\\' then
      let d ← readEscape quote
      readQuoted quote steps (d :: acc)
    else if c.toNat < 0x20 then failure
    else readQuoted quote steps (c :: acc)

/-- The quote that a text starts with. -/
def isQuote (c : Char) : Bool := c == '"' || c.toNat == 39

/-- A quoted text. -/
def readText : QueryReader String := do
  let some quote ← next? | failure
  if !isQuote quote then failure
  skip 1
  readQuoted quote (← get).length []

/-- The greatest index and the greatest bound of a slice. -/
def maxIndex : Nat := Nat.pow 2 53 - 1

/-- An integer without superfluous zeros. -/
def readInt : QueryReader Int := do
  let negative ← take "-"
  let digits ← takeWhile Char.isDigit
  match digits with
  | [] => failure
  | '0' :: _ :: _ => failure
  | _ =>
    let n := Nat.ofDigitChars 10 digits 0
    if maxIndex < n || (negative && n == 0) then failure
    return if negative then -(n : Int) else n

/-- Whether an integer may start with the character. -/
def startsInt (c : Char) : Bool := c == '-' || c.isDigit

/-- An integer that may be absent. -/
def readOptionalInt : QueryReader (Option Int) := do
  match ← next? with
  | some c => if startsInt c then return some (← readInt) else return none
  | none => return none

/-- A number, as in JSON. -/
def readNumber : QueryReader Json := do
  let sign ← takeWhile (· == '-')
  let whole ← takeWhile Char.isDigit
  let fraction ← do
    if ← take "." then pure ('.' :: (← takeWhile Char.isDigit)) else pure []
  let exponent ← (do
    match ← next? with
    | some c =>
      if c == 'e' || c == 'E' then
        skip 1
        let sign ← takeWhile fun c => c == '+' || c == '-'
        return 'e' :: (sign ++ (← takeWhile Char.isDigit))
      else return []
    | none => return [] : QueryReader (List Char))
  match Json.parse (String.ofList (sign ++ whole ++ fraction ++ exponent)) with
  | .ok j => return j
  | .error _ => failure

/-! ## §3. Queries and conditions. -/

/-- What a function gives. -/
inductive Call where
  | value (a : Operand)
  | condition (c : Condition)
  /-- The value of the only node of a query. -/
  | node (fromRoot : Bool) (segments : List Segment)

/-- A part of a filter that is not yet known to be a condition or an operand. -/
inductive Term where
  | literal (j : Json)
  /-- A query; `plain` marks one of names and indices without blanks inside the
  brackets. -/
  | query (fromRoot plain : Bool) (segments : List Segment)
  | call (c : Call)

/-- Whether a segment leads to one node at most. -/
def Segment.isSingular : Segment → Bool
  | .child [.name _] => true
  | .child [.index _] => true
  | _ => false

/-- The operand of a comparison. -/
def Term.operand? : Term → Option Operand
  | .literal j => some (.literal j)
  | .query fromRoot plain segments => if plain then some (.node fromRoot segments) else none
  | .call (.value a) => some a
  | .call (.node fromRoot segments) => some (.node fromRoot segments)
  | .call (.condition _) => none

/-- An argument that is a value. -/
def Term.valueArgument? : Term → Option Operand
  | .query fromRoot _ segments =>
    if segments.all Segment.isSingular then some (.node fromRoot segments) else none
  | t => t.operand?

/-- The condition that a part is by itself. -/
def Term.condition? : Term → Option Condition
  | .query fromRoot _ segments => some (.exists fromRoot segments)
  | .call (.condition c) => some c
  | _ => none

/-- A function applied to its arguments. -/
def applyFunction (name : String) (args : List Term) : Option Call :=
  match name, args with
  | "length", [a] => a.valueArgument?.map fun a => .value (.length a)
  | "count", [.query fromRoot _ segments] => some (.value (.count fromRoot segments))
  | "value", [.query fromRoot _ segments] => some (.node fromRoot segments)
  | "match", [a, b] => do return .condition (.matches true (← a.valueArgument?) (← b.valueArgument?))
  | "search", [a, b] => do
    return .condition (.matches false (← a.valueArgument?) (← b.valueArgument?))
  | _, _ => none

/-- The comparison that stands next. -/
def readComparison? : QueryReader (Option Comparison) := do
  if ← take "==" then return some .equal
  if ← take "!=" then return some .unequal
  if ← take "<=" then return some .lessOrEqual
  if ← take ">=" then return some .greaterOrEqual
  if ← take "<" then return some .less
  if ← take ">" then return some .greater
  return none

mutual

/-- The segments of a query, and whether all of them are plain. -/
def readSegments (plain : Bool) : Nat → QueryReader (List Segment × Bool)
  | 0 => failure
  | steps + 1 => do
    let start ← get
    skipSpace
    match ← next? with
    | some '[' =>
      let (selectors, tight) ← readBracket steps
      let segment := Segment.child selectors
      let (rest, plain) ← readSegments (plain && tight && segment.isSingular) steps
      return (segment :: rest, plain)
    | some '.' =>
      skip 1
      if ← take "." then
        let selectors ← readShort steps
        let (rest, _) ← readSegments false steps
        return (.descendant selectors :: rest, false)
      if (← next?) == some '[' then failure
      let segment := Segment.child (← readShort steps)
      let (rest, plain) ← readSegments (plain && segment.isSingular) steps
      return (segment :: rest, plain)
    | _ =>
      set start
      return ([], plain)

/-- What may stand behind a dot or two. -/
def readShort : Nat → QueryReader (List Selector)
  | 0 => failure
  | steps + 1 => do
    match ← next? with
    | some '[' => return (← readBracket steps).1
    | some '*' =>
      skip 1
      return [.wildcard]
    | _ => return [.name (← readName)]

/-- Selectors in brackets, and whether there are no blanks around them. -/
def readBracket : Nat → QueryReader (List Selector × Bool)
  | 0 => failure
  | steps + 1 => do
    expect "["
    let before ← get
    skipSpace
    let tight := before.length == (← get).length
    let selectors ← readSelectors steps
    let before ← get
    skipSpace
    let tight := tight && before.length == (← get).length
    expect "]"
    return (selectors, tight)

/-- Selectors separated by commas. -/
def readSelectors : Nat → QueryReader (List Selector)
  | 0 => failure
  | steps + 1 => do
    let selector ← readSelector steps
    let start ← get
    skipSpace
    if ← take "," then
      skipSpace
      return selector :: (← readSelectors steps)
    set start
    return [selector]

/-- One selector in brackets. -/
def readSelector : Nat → QueryReader Selector
  | 0 => failure
  | steps + 1 => do
    let some c ← next? | failure
    if isQuote c then return .name (← readText)
    if c == '*' then
      skip 1
      return .wildcard
    if c == '?' then
      skip 1
      skipSpace
      return .filter (← readOr steps)
    let start ← readOptionalInt
    let behind ← get
    skipSpace
    if !(← take ":") then
      set behind
      match start with
      | some i => return .index i
      | none => failure
    skipSpace
    let stop ← readOptionalInt
    let behind ← get
    skipSpace
    if ← take ":" then
      let behind ← get
      skipSpace
      match ← readOptionalInt with
      | some step => return .slice start stop step
      | none =>
        set behind
        return .slice start stop 1
    set behind
    return .slice start stop 1

/-- Conditions joined by `||`. -/
def readOr : Nat → QueryReader Condition
  | 0 => failure
  | steps + 1 => do
    let c ← readAnd steps
    let start ← get
    skipSpace
    if ← take "||" then
      skipSpace
      return .or c (← readOr steps)
    set start
    return c

/-- Conditions joined by `&&`. -/
def readAnd : Nat → QueryReader Condition
  | 0 => failure
  | steps + 1 => do
    let c ← readCondition steps
    let start ← get
    skipSpace
    if ← take "&&" then
      skipSpace
      return .and c (← readAnd steps)
    set start
    return c

/-- A condition in parentheses, a comparison, or a part that is a condition by
itself. -/
def readCondition : Nat → QueryReader Condition
  | 0 => failure
  | steps + 1 => do
    match ← next? with
    | some '!' =>
      skip 1
      skipSpace
      if (← next?) == some '(' then return .not (← readGroup steps)
      return .not (← (← readTerm steps).condition?)
    | some '(' => readGroup steps
    | _ =>
      let a ← readTerm steps
      let start ← get
      skipSpace
      match ← readComparison? with
      | some op =>
        skipSpace
        let b ← readTerm steps
        return .compare op (← a.operand?) (← b.operand?)
      | none =>
        set start
        a.condition?

/-- A condition in parentheses. -/
def readGroup : Nat → QueryReader Condition
  | 0 => failure
  | steps + 1 => do
    expect "("
    skipSpace
    let c ← readOr steps
    skipSpace
    expect ")"
    return c

/-- A literal, a query or a function. -/
def readTerm : Nat → QueryReader Term
  | 0 => failure
  | steps + 1 => do
    let some c ← next? | failure
    if isQuote c then return .literal (.string (← readText))
    if startsInt c then return .literal (← readNumber)
    if c == '$' || c == '@' then
      skip 1
      let (segments, plain) ← readSegments true steps
      return .query (c == '$') plain segments
    if !('a' ≤ c && c ≤ 'z') then failure
    let word ← takeWhile fun c => ('a' ≤ c && c ≤ 'z') || c == '_' || c.isDigit
    if ← take "(" then
      skipSpace
      let args ← if (← next?) == some ')' then pure [] else readArguments steps
      skipSpace
      expect ")"
      return .call (← applyFunction (String.ofList word) args)
    match String.ofList word with
    | "true" => return .literal (.bool true)
    | "false" => return .literal (.bool false)
    | "null" => return .literal .null
    | _ => failure

/-- Arguments separated by commas. -/
def readArguments : Nat → QueryReader (List Term)
  | 0 => failure
  | steps + 1 => do
    let arg ← readTerm steps
    let start ← get
    skipSpace
    if ← take "," then
      skipSpace
      return arg :: (← readArguments steps)
    set start
    return [arg]

end

/-- The segments of a written query, unless it is refused. -/
def ofText? (s : String) : Option (List Segment) := do
  let cs := s.toList
  let ((segments, _), rest) ← (do
    expect "$"
    readSegments true (8 * cs.length + 16) : QueryReader _).run cs
  if rest.isEmpty then return segments else none

end ApiPlaybook.JsonPath
