/-
  ApiPlaybook.Yaml.Token
  ──────────────────────
  **TOKENS OF A YAML STREAM.**

  A stream is first cut into tokens.  Block structure shows in the indentation
  only, so besides the tokens that are written there are tokens for the start
  and the end of a block; and since a key of a mapping is known as such only at
  the colon behind it, a key token is put in afterwards in front of what may
  be a key (`SimpleKey`).
-/

namespace ApiPlaybook.Yaml

/-- How a scalar is written. -/
inductive ScalarStyle where
  | plain
  | quoted
  | literal
  | folded
deriving DecidableEq, Inhabited

/-- A token. -/
inductive Token where
  | version (major minor : Nat)
  | tagDirective (handle start : String)
  | documentStart
  | documentEnd
  | blockSequenceStart
  | blockMappingStart
  | blockEnd
  | flowSequenceStart
  | flowSequenceEnd
  | flowMappingStart
  | flowMappingEnd
  | blockEntry
  | flowEntry
  | key
  | value
  | alias (name : String)
  | anchor (name : String)
  | tag (handle suffix : String)
  | scalar (text : String) (style : ScalarStyle)
deriving DecidableEq, Inhabited

/-! ## §1. The cursor. -/

/-- A place in the text. -/
structure Cursor where
  rest : List Char
  index : Nat
  line : Nat
  column : Nat

/-- Line breaks. -/
def isBreak (c : Char) : Bool :=
  c == '\n' || c == '\r' || c.toNat == 0x85 || c.toNat == 0x2028 || c.toNat == 0x2029

/-- Blanks inside a line. -/
def isGap (c : Char) : Bool := c == ' ' || c == '\t'

/-- Letters, digits, the underscore and the hyphen. -/
def isWordChar (c : Char) : Bool := c.isAlphanum || c == '_' || c == '-'

namespace Cursor

/-- The character that many places further on. -/
def at? (c : Cursor) (k : Nat) : Option Char := c.rest[k]?

/-- Whether that character stands there. -/
def looksAt (c : Cursor) (k : Nat) (x : Char) : Bool := c.at? k == some x

/-- Whether the text is at its end. -/
def atEnd (c : Cursor) : Bool := c.rest.isEmpty

def isGapAt (c : Cursor) (k : Nat) : Bool := (c.at? k).any isGap

def isBreakAt (c : Cursor) (k : Nat) : Bool := (c.at? k).any isBreak

/-- Whether a line break or the end of the text stands there. -/
def isBreakOrEndAt (c : Cursor) (k : Nat) : Bool := (c.at? k).all isBreak

/-- Whether a blank, a line break or the end of the text stands there. -/
def isSeparatedAt (c : Cursor) (k : Nat) : Bool := (c.at? k).all fun x => isGap x || isBreak x

/-- Go on by some characters of the line. -/
def skip (c : Cursor) (n : Nat) : Cursor :=
  { c with rest := c.rest.drop n, index := c.index + n, column := c.column + n }

/-- Go on behind a line break. -/
def skipBreak (c : Cursor) : Cursor :=
  match c.rest with
  | '\r' :: '\n' :: rest => ⟨rest, c.index + 2, c.line + 1, 0⟩
  | x :: rest => if isBreak x then ⟨rest, c.index + 1, c.line + 1, 0⟩ else c
  | [] => c

/-- The break at the cursor as it counts in a text: the breaks of ASCII and the
next-line character are line feeds. -/
def breakText (c : Cursor) : List Char :=
  match c.rest with
  | x :: _ => if x.toNat == 0x2028 || x.toNat == 0x2029 then [x] else ['\n']
  | [] => []

/-- Go on over the characters that pass. -/
def skipWhile (c : Cursor) (p : Char → Bool) : Cursor := c.skip (c.rest.takeWhile p).length

/-- The characters that pass, and the cursor behind them. -/
def takeWhile (c : Cursor) (p : Char → Bool) : List Char × Cursor :=
  let cs := c.rest.takeWhile p
  (cs, c.skip cs.length)

/-- Go on to the end of the line if a comment starts here. -/
def skipComment (c : Cursor) : Cursor :=
  if c.looksAt 0 '#' then c.skipWhile fun x => !isBreak x else c

/-- Whether a document marker made of that character stands at the start of a
line. -/
def atMarkerOf (c : Cursor) (x : Char) : Bool :=
  c.column == 0 && c.looksAt 0 x && c.looksAt 1 x && c.looksAt 2 x && c.isSeparatedAt 3

/-- Whether a document marker stands here. -/
def atMarker (c : Cursor) : Bool := c.atMarkerOf '-' || c.atMarkerOf '.'

end Cursor

/-! ## §2. Scalars. -/

/-- Line breaks between two parts of a scalar: the first one, which is folded,
and the later ones. -/
structure Breaks where
  first : List Char
  more : List Char

/-- What the breaks become between two parts of a scalar. -/
def Breaks.folded (b : Breaks) : List Char :=
  match b.first with
  | '\n' :: _ => if b.more.isEmpty then [' '] else b.more
  | first => first ++ b.more

/-- The blanks and line breaks from the cursor on.  Until the first break,
blanks are kept; behind it they are dropped.  `strict` is a column that a tab
must not stand before. -/
def takeGaps (strict : Option Nat) :
    Nat → Option Breaks → List Char → Cursor → Option (Option Breaks × List Char × Cursor)
  | 0, breaks, gaps, c => some (breaks, gaps, c)
  | steps + 1, breaks, gaps, c =>
    match c.rest with
    | x :: _ =>
      if isGap x then
        match breaks with
        | some _ =>
          if x == '\t' && strict.any (c.column < ·) then none
          else takeGaps strict steps breaks gaps (c.skip 1)
        | none => takeGaps strict steps breaks (gaps ++ [x]) (c.skip 1)
      else if isBreak x then
        let next := match breaks with
          | none => ⟨c.breakText, []⟩
          | some b => ⟨b.first, b.more ++ c.breakText⟩
        takeGaps strict steps (some next) [] c.skipBreak
      else some (breaks, gaps, c)
    | [] => some (breaks, gaps, c)

/-- What stands between two parts of a scalar. -/
def joint (breaks : Option Breaks) (gaps : List Char) : List Char :=
  match breaks with
  | some b => b.folded
  | none => gaps

/-- The characters of a plain scalar up to what ends its part of the line. -/
def takePlainPart (flow : Bool) : Nat → List Char → Cursor → Option (List Char × Cursor)
  | 0, acc, c => some (acc, c)
  | steps + 1, acc, c =>
    match c.rest with
    | [] => some (acc, c)
    | x :: _ =>
      if isGap x || isBreak x then some (acc, c)
      else if flow && x == ':'
          && (c.at? 1).any fun y => [',', '?', '[', ']', '\x7b', '\x7d'].contains y then none
      else if x == ':' && c.isSeparatedAt 1 then some (acc, c)
      else if flow && [',', '[', ']', '\x7b', '\x7d'].contains x then some (acc, c)
      else takePlainPart flow steps (x :: acc) (c.skip 1)

/-- Scan a plain scalar.  The result tells whether a line break was passed
last.  `pending` stands between the text so far and the next part. -/
def scanPlain (flow : Bool) (indent : Nat) :
    Nat → List Char → List Char → Bool → Cursor → Option (List Char × Bool × Cursor)
  | 0, acc, _, broke, c => some (acc.reverse, broke, c)
  | steps + 1, acc, pending, broke, c => do
    if c.atMarker || c.looksAt 0 '#' then return (acc.reverse, broke, c)
    let (part, c') ← takePlainPart flow c.rest.length [] c
    let (acc, broke) :=
      if part.isEmpty then (acc, broke) else (part ++ (pending.reverse ++ acc), false)
    if !(c'.isGapAt 0 || c'.isBreakAt 0) then return (acc.reverse, broke, c')
    let (breaks, gaps, c'') ← takeGaps (some indent) c'.rest.length none [] c'
    let broke := breaks.isSome
    if !flow && c''.column < indent then return (acc.reverse, broke, c'')
    scanPlain flow indent steps acc (joint breaks gaps) broke c''

/-- The value of a hexadecimal digit. -/
def hexValue? (c : Char) : Option Nat :=
  if c.isDigit then some (c.toNat - 48)
  else if 'a' ≤ c ∧ c ≤ 'f' then some (c.toNat - 87)
  else if 'A' ≤ c ∧ c ≤ 'F' then some (c.toNat - 55)
  else none

/-- The number that hexadecimal digits denote. -/
def hexNumber? (cs : List Char) : Option Nat :=
  cs.foldlM (fun n c => (hexValue? c).map fun d => 16 * n + d) 0

/-- The character of an escape in a double-quoted scalar, by the letter behind
the backslash. -/
def escaped? : Char → Option Nat
  | '0' => some 0x00
  | 'a' => some 0x07
  | 'b' => some 0x08
  | 't' => some 0x09
  | '\t' => some 0x09
  | 'n' => some 0x0a
  | 'v' => some 0x0b
  | 'f' => some 0x0c
  | 'r' => some 0x0d
  | 'e' => some 0x1b
  | ' ' => some 0x20
  | '"' => some 0x22
  | '/' => some 0x2f
  | '\\' => some 0x5c
  | 'N' => some 0x85
  | '_' => some 0xa0
  | 'L' => some 0x2028
  | 'P' => some 0x2029
  | _ => none

/-- The number of digits of a numeric escape. -/
def escapeWidth? : Char → Option Nat
  | 'x' => some 2
  | 'u' => some 4
  | 'U' => some 8
  | _ => none

/-- The character and the length of the escape at the cursor. -/
def scanEscape (c : Cursor) : Option (Char × Nat) := do
  let letter ← c.at? 1
  match escapeWidth? letter with
  | none => return (Char.ofNat (← escaped? letter), 2)
  | some width =>
    let digits := (c.rest.drop 2).take width
    if digits.length < width then none
    let n ← hexNumber? digits
    if (0xd800 ≤ n && n ≤ 0xdfff) || 0x10ffff < n then none
    return (Char.ofNat n, 2 + width)

/-- The characters of a quoted scalar up to a blank, a break or the closing
quote; the result tells whether the line break behind them is escaped. -/
def takeQuotedPart (single : Bool) : Nat → List Char → Cursor → Option (List Char × Bool × Cursor)
  | 0, acc, c => some (acc, false, c)
  | steps + 1, acc, c =>
    match c.rest with
    | [] => some (acc, false, c)
    | x :: _ =>
      let quote := if single then Char.ofNat 39 else '"'
      if isGap x || isBreak x then some (acc, false, c)
      else if single && x == quote && c.looksAt 1 quote then
        takeQuotedPart single steps (quote :: acc) (c.skip 2)
      else if x == quote then some (acc, false, c)
      else if !single && x == '\\' then
        if c.isBreakAt 1 then some (acc, true, (c.skip 1).skipBreak)
        else do
          let (y, width) ← scanEscape c
          takeQuotedPart single steps (y :: acc) (c.skip width)
      else takeQuotedPart single steps (x :: acc) (c.skip 1)

/-- Scan a quoted scalar behind its opening quote. -/
def scanQuoted (single : Bool) : Nat → List Char → Cursor → Option (List Char × Cursor)
  | 0, _, _ => none
  | steps + 1, acc, c => do
    if c.atMarker || c.atEnd then none
    let (acc, escapedBreak, c) ← takeQuotedPart single c.rest.length acc c
    if c.looksAt 0 (if single then Char.ofNat 39 else '"') then
      return (acc.reverse, c.skip 1)
    let start := if escapedBreak then some ⟨[], []⟩ else none
    let (breaks, gaps, c) ← takeGaps none c.rest.length start [] c
    scanQuoted single steps ((joint breaks gaps).reverse ++ acc) c

/-! ## §3. Block scalars. -/

/-- The breaks and the indentation in front of a line of a block scalar, with
the greatest indentation met.  `indent` is zero while it is not known. -/
def takeBlockBreaks (indent : Nat) :
    Nat → Nat → List Char → Cursor → Option (Nat × List Char × Cursor)
  | 0, widest, acc, c => some (widest, acc, c)
  | steps + 1, widest, acc, c =>
    let spaces := (c.rest.takeWhile (· == ' ')).length
    let c := c.skip (if indent = 0 then spaces else min spaces (indent - c.column))
    let widest := max widest c.column
    if (indent = 0 || c.column < indent) && c.looksAt 0 '\t' then none
    else if c.isBreakAt 0 then
      takeBlockBreaks indent steps widest (acc ++ c.breakText) c.skipBreak
    else some (widest, acc, c)

/-- The lines of a block scalar: the text so far in reverse, the break behind
its last line, the breaks in front of the next line, and whether the last line
started with a blank. -/
def scanBlockLines (literal : Bool) (indent : Nat) :
    Nat → List Char → List Char → List Char → Bool → Cursor →
      Option (List Char × List Char × List Char × Cursor)
  | 0, acc, lead, trail, _, c => some (acc, lead, trail, c)
  | steps + 1, acc, lead, trail, leadingGap, c =>
    if c.column == indent && !c.atEnd then do
      let gap := c.isGapAt 0
      let folds := !literal && lead.head? == some '\n' && !leadingGap && !gap
      let between :=
        if folds then (if trail.isEmpty then [' '] else []) ++ trail else lead ++ trail
      let (line, c) := c.takeWhile fun x => !isBreak x
      let lead := c.breakText
      let (_, trail, c) ← takeBlockBreaks indent c.rest.length 0 [] c.skipBreak
      scanBlockLines literal indent steps (line.reverse ++ (between.reverse ++ acc)) lead trail
        gap c
    else some (acc, lead, trail, c)

/-- How the line breaks at the end of a block scalar are treated. -/
inductive Chomping where
  | clip
  | strip
  | keep
deriving DecidableEq

/-- The indicators behind `|` or `>`: chomping and the written indentation. -/
def scanBlockHeader (c : Cursor) : Option (Chomping × Nat × Cursor) :=
  let chomp? (c : Cursor) : Option (Chomping × Cursor) :=
    if c.looksAt 0 '+' then some (.keep, c.skip 1)
    else if c.looksAt 0 '-' then some (.strip, c.skip 1)
    else none
  let digit? (c : Cursor) : Option Nat :=
    (c.at? 0).bind fun x => if x.isDigit then some (x.toNat - 48) else none
  match chomp? c with
  | some (chomping, c) =>
    match digit? c with
    | some 0 => none
    | some n => some (chomping, n, c.skip 1)
    | none => some (chomping, 0, c)
  | none =>
    match digit? c with
    | some 0 => none
    | some n =>
      match chomp? (c.skip 1) with
      | some (chomping, c) => some (chomping, n, c)
      | none => some (.clip, n, c.skip 1)
    | none => some (.clip, 0, c)

/-- Scan a block scalar behind its indicator, inside a block of that
indentation (`none` outside all blocks). -/
def scanBlock (literal : Bool) (parent : Option Nat) (c : Cursor) :
    Option (List Char × Cursor) := do
  let (chomping, increment, c) ← scanBlockHeader c
  let c := (c.skipWhile isGap).skipComment
  if !c.isBreakOrEndAt 0 then none
  let c := c.skipBreak
  let written := if increment = 0 then 0 else parent.getD 0 + increment
  let (widest, trail, c) ← takeBlockBreaks written (c.rest.length + 1) 0 [] c
  let least := match parent with
    | some n => n + 1
    | none => 0
  let indent := if written = 0 then max (max widest least) 1 else written
  let (acc, lead, trail, c) ←
    scanBlockLines literal indent (c.rest.length + 1) [] [] trail false c
  let tail := match chomping with
    | .strip => []
    | .clip => lead
    | .keep => lead ++ trail
  return (acc.reverse ++ tail, c)

/-! ## §4. Tags and directives. -/

/-- Scan a tag handle: `!`, `!!` or `!word!`.  Without a closing mark what was
read is the start of a tag. -/
def scanHandle (directive : Bool) (c : Cursor) : Option (List Char × Cursor) := do
  if !c.looksAt 0 '!' then none
  let (word, c) := (c.skip 1).takeWhile isWordChar
  if c.looksAt 0 '!' then return ('!' :: (word ++ ['!']), c.skip 1)
  if directive && !word.isEmpty then none
  return ('!' :: word, c)

/-- Characters of a tag; inside `<` and `>` some more are allowed. -/
def isTagChar (verbatim : Bool) (x : Char) : Bool :=
  isWordChar x
    || [';', '/', '?', ':', '@', '&', '=', '+', '$', '.', '%', '!', '~', '*', Char.ofNat 39,
      '(', ')'].contains x
    || (verbatim && [',', '[', ']'].contains x)

/-- The bytes that start an escaped character of a tag: its length in bytes and
the first bits. -/
def leadByte? (n : Nat) : Option (Nat × Nat) :=
  if n < 0x80 then some (1, n)
  else if 0xc0 ≤ n ∧ n < 0xe0 then some (2, n - 0xc0)
  else if 0xe0 ≤ n ∧ n < 0xf0 then some (3, n - 0xe0)
  else if 0xf0 ≤ n ∧ n < 0xf8 then some (4, n - 0xf0)
  else none

/-- The escaped bytes that follow the first byte of a character. -/
def escapedTail : Nat → Nat → List Char → Option (Nat × List Char)
  | 0, n, rest => some (n, rest)
  | left + 1, n, '%' :: a :: b :: rest => do
    let byte ← hexNumber? [a, b]
    if byte < 0x80 || 0xc0 ≤ byte then none
    escapedTail left (64 * n + (byte - 0x80)) rest
  | _, _, _ => none

/-- Scan the characters of a tag, at most as many as the first argument says. -/
def scanTagChars (verbatim : Bool) : Nat → List Char → Cursor → Option (List Char × Cursor)
  | 0, acc, c => some (acc.reverse, c)
  | steps + 1, acc, c =>
    match c.rest with
    | '%' :: a :: b :: rest => do
      let byte ← hexNumber? [a, b]
      let (width, bits) ← leadByte? byte
      let (n, _) ← escapedTail (width - 1) bits rest
      let x := Char.ofNat n
      if x.toNat != n || x.utf8Size != width then none
      scanTagChars verbatim steps (x :: acc) (c.skip (3 * width))
    | x :: _ =>
      if x == '%' then none
      else if isTagChar verbatim x then scanTagChars verbatim steps (x :: acc) (c.skip 1)
      else some (acc.reverse, c)
    | [] => some (acc.reverse, c)

/-- Scan a tag. -/
def scanTag (flow : Bool) (c : Cursor) : Option (Token × Cursor) := do
  let (token, c) ←
    if c.looksAt 1 '<' then do
      let (suffix, c) ← scanTagChars true c.rest.length [] (c.skip 2)
      if suffix.isEmpty || !c.looksAt 0 '>' then none
      some (Token.tag "" (String.ofList suffix), c.skip 1)
    else do
      let (handle, c) ← scanHandle false c
      let (suffix, c') ← scanTagChars false c.rest.length [] c
      if 2 ≤ handle.length && handle.getLast? == some '!' then
        if suffix.isEmpty then none
        some (Token.tag (String.ofList handle) (String.ofList suffix), c')
      else
        let suffix := handle.drop 1 ++ suffix
        if suffix.isEmpty then some (Token.tag "" "!", c')
        else some (Token.tag "!" (String.ofList suffix), c')
  if flow && c.looksAt 0 ',' then return (token, c)
  if !c.isSeparatedAt 0 then none
  return (token, c)

/-- Scan an anchor or an alias behind its mark. -/
def scanAnchor (c : Cursor) : Option (String × Cursor) := do
  let (name, c) := c.takeWhile isWordChar
  if name.isEmpty then none
  let ends := c.isSeparatedAt 0
    || (c.at? 0).any fun x => ['?', ':', ',', ']', '\x7d', '%', '@', '`'].contains x
  if !ends then none
  return (String.ofList name, c)

/-- Scan a number of at most nine digits. -/
def scanVersionNumber (c : Cursor) : Option (Nat × Cursor) := do
  let (digits, c) := c.takeWhile Char.isDigit
  if digits.isEmpty || 9 < digits.length then none
  return (Nat.ofDigitChars 10 digits 0, c)

/-- Scan a directive with the rest of its line. -/
def scanDirective (c : Cursor) : Option (Token × Cursor) := do
  let (name, c) := (c.skip 1).takeWhile isWordChar
  if name.isEmpty || !c.isSeparatedAt 0 then none
  let c := c.skipWhile isGap
  let (token, c) ← match String.ofList name with
    | "YAML" => do
      let (major, c) ← scanVersionNumber c
      if !c.looksAt 0 '.' then none
      let (minor, c) ← scanVersionNumber (c.skip 1)
      some (Token.version major minor, c)
    | "TAG" => do
      let (handle, c) ← scanHandle true c
      if !c.isGapAt 0 then none
      let c := c.skipWhile isGap
      let (start, c) ← scanTagChars true c.rest.length [] c
      if start.isEmpty || !c.isSeparatedAt 0 then none
      some (Token.tagDirective (String.ofList handle) (String.ofList start), c)
    | _ => none
  let c := (c.skipWhile isGap).skipComment
  if !c.isBreakOrEndAt 0 then none
  return (token, c.skipBreak)

end ApiPlaybook.Yaml
