/-
  ApiPlaybook.Yaml.TokenStream
  ────────────────────────────
  **THE TOKENS OF A TEXT.**

  `tokens?` cuts a whole text into tokens, or refuses it.  On the way it keeps
  the indentation of the open blocks, the depth of flow collections and, for
  each of these, the place where a key may have started.  A key must end on its
  line, within 1024 characters.
-/
import ApiPlaybook.Yaml.Token

namespace ApiPlaybook.Yaml

/-- A place where the key of a mapping may have started. -/
structure SimpleKey where
  /-- A key is needed here: the line starts at the indentation of its block. -/
  required : Bool
  /-- The number of tokens before it. -/
  number : Nat
  index : Nat
  line : Nat
  column : Nat

/-- Where the cutting stands. -/
structure TokenState where
  cursor : Cursor
  tokens : Array Token
  /-- Indentation of the innermost block; none outside all blocks. -/
  indent : Option Nat
  /-- Indentations of the blocks around it. -/
  outer : List (Option Nat)
  /-- Depth of flow collections. -/
  flow : Nat
  keyAllowed : Bool
  /-- For each depth of flow collections, from the innermost. -/
  keys : List (Option SimpleKey)

namespace TokenState

/-- Whether the cursor is inside a flow collection. -/
def inFlow (s : TokenState) : Bool := s.flow != 0

def push (s : TokenState) (t : Token) : TokenState := { s with tokens := s.tokens.push t }

/-- Go on by some characters. -/
def skip (s : TokenState) (n : Nat) : TokenState := { s with cursor := s.cursor.skip n }

/-- Whether an indentation is below a column. -/
def below (indent : Option Nat) (column : Nat) : Bool := indent.all (· < column)

/-! ## §1. Blocks. -/

/-- Open a block at a column, unless one is open there.  The token goes in front
of the token of the given number, if there is one. -/
def openBlock (s : TokenState) (column : Nat) (number : Option Nat) (t : Token) : TokenState :=
  if s.inFlow || !below s.indent column then s
  else
    { s with
      indent := some column
      outer := s.indent :: s.outer
      tokens := match number with
        | some n => s.tokens.insertIdxIfInBounds n t
        | none => s.tokens.push t }

/-- Close blocks, from the innermost, as long as `p` holds of the indentation. -/
def closeWhile (p : Nat → Bool) (tokens : Array Token) :
    Option Nat → List (Option Nat) → Array Token × Option Nat × List (Option Nat)
  | some n, around :: outer =>
    if p n then closeWhile p (tokens.push .blockEnd) around outer
    else (tokens, some n, around :: outer)
  | indent, outer => (tokens, indent, outer)

/-- Close the blocks that are indented further than the column; all of them for
no column. -/
def closeBlocks (s : TokenState) (column : Option Nat) : TokenState :=
  if s.inFlow then s
  else
    let p (n : Nat) : Bool := match column with
      | some c => c < n
      | none => true
    let (tokens, indent, outer) := closeWhile p s.tokens s.indent s.outer
    { s with tokens := tokens, indent := indent, outer := outer }

/-! ## §2. Keys. -/

/-- Give up the key that may have started; refused when a key is needed. -/
def dropKey (s : TokenState) : Option TokenState :=
  match s.keys with
  | some k :: rest => if k.required then none else some { s with keys := none :: rest }
  | _ => some s

/-- Note that a key may start here. -/
def saveKey (s : TokenState) : Option TokenState :=
  if s.keyAllowed then do
    let s ← s.dropKey
    let c := s.cursor
    let required := !s.inFlow && s.indent == some c.column
    return { s with
      keys := some ⟨required, s.tokens.size, c.index, c.line, c.column⟩ :: s.keys.drop 1 }
  else some s

/-- Give up the keys that did not end in time. -/
def dropStaleKeys (s : TokenState) : Option TokenState := do
  let keys ← s.keys.mapM fun
    | some k =>
      if k.line < s.cursor.line || k.index + 1024 < s.cursor.index then
        if k.required then none else some none
      else some (some k)
    | none => some none
  return { s with keys := keys }

/-! ## §3. Single tokens. -/

/-- Go on to the next token. -/
def skipToToken : Nat → TokenState → TokenState
  | 0, s => s
  | steps + 1, s =>
    let c := s.cursor
    let c := if c.column == 0 && c.looksAt 0 (Char.ofNat 0xfeff) then c.skip 1 else c
    let tabs := s.inFlow || !s.keyAllowed
    let c := (c.skipWhile fun x => x == ' ' || (tabs && x == '\t')).skipComment
    if c.isBreakAt 0 then
      skipToToken steps { s with cursor := c.skipBreak, keyAllowed := s.keyAllowed || !s.inFlow }
    else { s with cursor := c }

/-- A token outside the collections: the end of the stream, a directive or a
document marker. -/
def leaveBlocks (s : TokenState) : Option TokenState := do
  let s ← (s.closeBlocks none).dropKey
  return { s with keyAllowed := false }

/-- `[` or a brace that opens. -/
def openFlow (s : TokenState) (t : Token) : Option TokenState := do
  let s ← s.saveKey
  return { (s.push t).skip 1 with keys := none :: s.keys, flow := s.flow + 1, keyAllowed := true }

/-- `]` or a brace that closes. -/
def closeFlow (s : TokenState) (t : Token) : Option TokenState := do
  let s ← s.dropKey
  let s := if s.inFlow then { s with flow := s.flow - 1, keys := s.keys.drop 1 } else s
  return { (s.push t).skip 1 with keyAllowed := false }

/-- The mark of an entry of a block sequence. -/
def blockEntry (s : TokenState) : Option TokenState := do
  if !s.inFlow && !s.keyAllowed then none
  let s ← (s.openBlock s.cursor.column none .blockSequenceStart).dropKey
  return { (s.push .blockEntry).skip 1 with keyAllowed := true }

/-- The mark of a written key. -/
def writtenKey (s : TokenState) : Option TokenState := do
  if !s.inFlow && !s.keyAllowed then none
  let s ← (s.openBlock s.cursor.column none .blockMappingStart).dropKey
  return { (s.push .key).skip 1 with keyAllowed := !s.inFlow }

/-- The colon in front of a value. -/
def valueMark (s : TokenState) : Option TokenState :=
  match s.keys with
  | some k :: rest =>
    let s := { s with tokens := s.tokens.insertIdxIfInBounds k.number .key, keys := none :: rest }
    let s := s.openBlock k.column (some k.number) .blockMappingStart
    some { (s.push .value).skip 1 with keyAllowed := false }
  | _ =>
    if !s.inFlow && !s.keyAllowed then none
    else
      let s := s.openBlock s.cursor.column none .blockMappingStart
      some { (s.push .value).skip 1 with keyAllowed := !s.inFlow }

/-- The characters that start no plain scalar, whatever follows. -/
def indicators : List Char :=
  [',', '[', ']', '\x7b', '\x7d', '#', '&', '*', '!', '|', '>', Char.ofNat 39, '"', '%', '@', '`']

/-- Whether a plain scalar may start at the cursor. -/
def startsPlain (c : Cursor) (flow : Bool) : Bool :=
  match c.at? 0 with
  | none => false
  | some x =>
    if isGap x || isBreak x then false
    else if x == '-' then !c.isGapAt 1
    else if x == '?' || x == ':' then !flow && !c.isSeparatedAt 1
    else !indicators.contains x

/-- Fetch the token at the cursor.  Nothing for a text that is refused; the
flag is set at the end of the text. -/
def fetch (s : TokenState) : Option (TokenState × Bool) := do
  let s := skipToToken (s.cursor.rest.length + 1) s
  let s ← s.dropStaleKeys
  let s := s.closeBlocks (some s.cursor.column)
  let c := s.cursor
  let flow := s.inFlow
  let more (s : TokenState) : TokenState × Bool := (s, false)
  match c.at? 0 with
  | none => return ((← s.leaveBlocks), true)
  | some x =>
    if c.column == 0 && x == '%' then
      let s ← s.leaveBlocks
      let (t, c) ← scanDirective s.cursor
      return more { s.push t with cursor := c }
    else if c.atMarkerOf '-' then
      return more (((← s.leaveBlocks).push .documentStart).skip 3)
    else if c.atMarkerOf '.' then
      return more (((← s.leaveBlocks).push .documentEnd).skip 3)
    else if x == '[' then return more (← s.openFlow .flowSequenceStart)
    else if x == '\x7b' then return more (← s.openFlow .flowMappingStart)
    else if x == ']' then return more (← s.closeFlow .flowSequenceEnd)
    else if x == '\x7d' then return more (← s.closeFlow .flowMappingEnd)
    else if x == ',' then
      let s ← s.dropKey
      return more { (s.push .flowEntry).skip 1 with keyAllowed := true }
    else if x == '-' && c.isSeparatedAt 1 then return more (← s.blockEntry)
    else if x == '?' && (flow || c.isSeparatedAt 1) then return more (← s.writtenKey)
    else if x == ':' && (flow || c.isSeparatedAt 1) then return more (← s.valueMark)
    else if x == '*' || x == '&' then
      let s ← s.saveKey
      let (name, c) ← scanAnchor (s.cursor.skip 1)
      let t := if x == '*' then Token.alias name else Token.anchor name
      return more { s.push t with cursor := c, keyAllowed := false }
    else if x == '!' then
      let s ← s.saveKey
      let (t, c) ← scanTag flow s.cursor
      return more { s.push t with cursor := c, keyAllowed := false }
    else if !flow && (x == '|' || x == '>') then
      let s ← s.dropKey
      let (text, c) ← scanBlock (x == '|') s.indent (s.cursor.skip 1)
      let style := if x == '|' then ScalarStyle.literal else ScalarStyle.folded
      return more { s.push (.scalar (String.ofList text) style) with
        cursor := c, keyAllowed := true }
    else if x == '"' || x == Char.ofNat 39 then
      let s ← s.saveKey
      let c := s.cursor.skip 1
      let (text, c) ← scanQuoted (x != '"') (c.rest.length + 1) [] c
      return more { s.push (.scalar (String.ofList text) .quoted) with
        cursor := c, keyAllowed := false }
    else if startsPlain c flow then
      let s ← s.saveKey
      let least := match s.indent with
        | some n => n + 1
        | none => 0
      let (text, broke, c) ← scanPlain flow least (c.rest.length + 1) [] [] false s.cursor
      return more { s.push (.scalar (String.ofList text) .plain) with
        cursor := c, keyAllowed := broke }
    else none

/-- Fetch tokens to the end of the text; the first argument bounds the steps. -/
def fetchAll : Nat → TokenState → Option (Array Token)
  | 0, _ => none
  | steps + 1, s => do
    let (s, done) ← s.fetch
    if done then return s.tokens else fetchAll steps s

end TokenState

/-- Characters that a text may hold. -/
def isAllowed (c : Char) : Bool :=
  let n := c.toNat
  n == 0x09 || n == 0x0a || n == 0x0d || (0x20 ≤ n && n ≤ 0x7e) || n == 0x85
    || (0xa0 ≤ n && n ≤ 0xd7ff) || (0xe000 ≤ n && n ≤ 0xfffd) || 0x10000 ≤ n

/-- The tokens of a text; none if it is refused. -/
def tokens? (cs : List Char) : Option (List Token) :=
  let cs := match cs with
    | c :: rest => if c.toNat == 0xfeff then rest else c :: rest
    | [] => []
  if cs.all isAllowed then
    let start : TokenState := ⟨⟨cs, 0, 0, 0⟩, #[], none, [], 0, true, [none]⟩
    (TokenState.fetchAll (cs.length + 2) start).map (·.toList)
  else none

end ApiPlaybook.Yaml
