/-
  ApiPlaybook.Json.Reader
  ───────────────────────
  **READING JSON TEXTS.**

  `JsonText.read` turns any text into a draft (see `ApiPlaybook.Json.Draft`);
  nothing is refused here, faults are written down where they are.  A fault
  that leaves unclear where the next token starts ends the reading, so `rest`
  is absent after it.
-/
import ApiPlaybook.Json.Draft

namespace ApiPlaybook.JsonText

/-- Arrays and objects may be nested this deep. -/
def greatestDepth : Nat := 127

/-- What was read and what of the text is left. -/
structure Piece (α : Type) where
  got : α
  rest : Option (List Char)

/-- Blanks between the tokens of a JSON text. -/
def isSpace (c : Char) : Bool := c == ' ' || c == '\n' || c == '\t' || c == '\r'

def skipSpace (cs : List Char) : List Char := cs.dropWhile isSpace

/-! ## §1. Strings. -/

/-- Where the reading of a string stands. -/
inductive Escape where
  /-- Between characters. -/
  | plain
  /-- After a backslash. -/
  | begun
  /-- Inside the four digits of a code unit: its value so far, the digits still
  to come, and the leading surrogate before it. -/
  | unit (value left : Nat) (lead : Option Nat)
  /-- After a leading surrogate. -/
  | paired (lead : Nat)
  /-- After a leading surrogate and a backslash. -/
  | pairedBegun (lead : Nat)

/-- The value of a hexadecimal digit. -/
def hexDigit? (c : Char) : Option Nat :=
  if '0' ≤ c ∧ c ≤ '9' then some (c.toNat - 48)
  else if 'a' ≤ c ∧ c ≤ 'f' then some (c.toNat - 87)
  else if 'A' ≤ c ∧ c ≤ 'F' then some (c.toNat - 55)
  else none

/-- Whether at least four bytes of text are left. -/
def fourBytesLeft (cs : List Char) : Bool :=
  4 ≤ (cs.take 4).foldl (fun n c => n + c.utf8Size) 0

/-- The character for the letter of a short escape. -/
def shortEscape? : Char → Option Char
  | '"' => some '"'
  | '\\' => some '\\'
  | '/' => some '/'
  | 'b' => some (Char.ofNat 0x08)
  | 'f' => some (Char.ofNat 0x0c)
  | 'n' => some '\n'
  | 'r' => some '\r'
  | 't' => some '\t'
  | _ => none

/-- Read a string behind its opening quote.  `flaw` is the first fault that
matters to readers of the value only; `acc` holds the characters in reverse. -/
def readString (flaw : Option SyntaxError) (state : Escape) (acc : List Char) :
    List Char → Piece (Except Flaw String)
  | [] => ⟨.error ⟨flaw.getD .eofInString, some .eofInString⟩, none⟩
  | c :: rest =>
    let stop (e : SyntaxError) : Piece (Except Flaw String) :=
      ⟨.error ⟨flaw.getD e, some e⟩, none⟩
    let begun (flaw : Option SyntaxError) : Piece (Except Flaw String) :=
      if c == 'u' then
        if fourBytesLeft rest then readString flaw (.unit 0 4 none) acc rest
        else ⟨.error ⟨flaw.getD .eofInString, some .eofInString⟩, none⟩
      else match shortEscape? c with
        | some d => readString flaw .plain (d :: acc) rest
        | none => ⟨.error ⟨flaw.getD .invalidEscape, some .invalidEscape⟩, none⟩
    let plain (flaw : Option SyntaxError) : Piece (Except Flaw String) :=
      if c == '"' then
        match flaw with
        | some e => ⟨.error ⟨e, none⟩, some rest⟩
        | none => ⟨.ok (String.ofList acc.reverse), some rest⟩
      else if c == '\\' then readString flaw .begun acc rest
      else if c.toNat < 0x20 then
        ⟨.error ⟨flaw.getD .controlCharacter, some .controlCharacter⟩, none⟩
      else readString flaw .plain (c :: acc) rest
    match state with
    | .plain => plain flaw
    | .begun => begun flaw
    | .paired lead =>
      if c == '\\' then readString flaw (.pairedBegun lead) acc rest
      else plain (some .unfinishedSurrogatePair)
    | .pairedBegun lead =>
      if c == 'u' then
        if fourBytesLeft rest then readString flaw (.unit 0 4 (some lead)) acc rest
        else stop .eofInString
      else begun (some .unfinishedSurrogatePair)
    | .unit n left lead =>
      match hexDigit? c with
      | none => stop .invalidEscape
      | some d =>
        let n := 16 * n + d
        if 1 < left then readString flaw (.unit n (left - 1) lead) acc rest
        else if flaw.isSome then readString flaw .plain acc rest
        else match lead with
          | some lead =>
            if 0xdc00 ≤ n && n ≤ 0xdfff then
              let code := (lead - 0xd800) * 0x400 + (n - 0xdc00) + 0x10000
              readString none .plain (Char.ofNat code :: acc) rest
            else readString (some .loneSurrogate) .plain acc rest
          | none =>
            if 0xdc00 ≤ n && n ≤ 0xdfff then
              readString (some .loneSurrogate) .plain acc rest
            else if 0xd800 ≤ n && n ≤ 0xdbff then readString none (.paired n) acc rest
            else readString none .plain (Char.ofNat n :: acc) rest

/-! ## §2. Numbers. -/

/-- The greatest integer of 64 bits. -/
def greatestInteger : Nat := UInt64.size - 1

/-- Digits added to a significand as long as it fits 64 bits; the count of the
digits taken, and what is left of them. -/
def takeDigits (significand : Nat) : List Char → Nat × Nat × List Char
  | [] => (significand, 0, [])
  | c :: rest =>
    let next := significand * 10 + (c.toNat - 48)
    if next ≤ greatestInteger then
      let (s, n, left) := takeDigits next rest
      (s, n + 1, left)
    else (significand, 0, c :: rest)

/-- A number from its parts: sign, digits before the point, digits behind it
and exponent, the last two when they are written. -/
def numberOfParts (negative : Bool) (whole : List Char) (fraction : Option (List Char))
    (exponent : Option Int) : Except Flaw Number :=
  let (s, _, left) := takeDigits 0 whole
  let scaled (s : Nat) (e : Int) : Except Flaw Number :=
    match Binary64.ofScaled? negative s e with
    | some x => .ok (.float x)
    | none => .error ⟨.numberOutOfRange, none⟩
  match fraction, exponent with
  | none, none =>
    if left.isEmpty then
      if !negative then .ok (.integer s)
      else if 0 < s ∧ s ≤ Nat.pow 2 63 then .ok (.integer (-(s : Int)))
      else scaled s 0
    else scaled s left.length
  | _, _ =>
    let (s, taken, _) := takeDigits s (fraction.getD [])
    scaled s ((left.length : Int) - taken + exponent.getD 0)

/-- Read a number behind its sign. -/
def readNumber (negative : Bool) (cs : List Char) : Piece (Except Flaw Number) :=
  let stop (f : Flaw) : Piece (Except Flaw Number) := ⟨.error f, none⟩
  let ends (rest : List Char) : Flaw :=
    if rest.isEmpty then ⟨.eofInValue, some .invalidNumber⟩ else .fatal .invalidNumber
  let (whole, rest) := cs.span Char.isDigit
  match whole with
  | [] => stop (ends rest)
  | '0' :: _ :: _ => stop (.fatal .invalidNumber)
  | _ =>
    let withExponent (fraction : Option (List Char)) (rest : List Char) :
        Piece (Except Flaw Number) :=
      match rest with
      | c :: r =>
        if c == 'e' || c == 'E' then
          let (minus, r) := match r with
            | '+' :: r => (false, r)
            | '-' :: r => (true, r)
            | r => (false, r)
          let (digits, r) := r.span Char.isDigit
          if digits.isEmpty then stop (ends r)
          else
            let e : Int := (Nat.ofDigitChars 10 digits 0 : Nat)
            ⟨numberOfParts negative whole fraction (some (if minus then -e else e)), some r⟩
        else ⟨numberOfParts negative whole fraction none, some rest⟩
      | [] => ⟨numberOfParts negative whole fraction none, some []⟩
    match rest with
    | '.' :: r =>
      let (digits, r) := r.span Char.isDigit
      if digits.isEmpty then stop (ends r) else withExponent (some digits) r
    | _ => withExponent none rest

/-! ## §3. Values. -/

/-- Read the rest of a word such as `null`. -/
def readWord (d : Draft) : List Char → List Char → Piece Draft
  | [], rest => ⟨d, some rest⟩
  | _ :: _, [] => ⟨.flawed (.fatal .eofInValue), none⟩
  | w :: ws, c :: rest =>
    if c = w then readWord d ws rest else ⟨.flawed (.fatal .expectedWord), none⟩

def Piece.toDraft (p : Piece (Except Flaw Number)) : Piece Draft :=
  ⟨match p.got with
    | .ok n => .number n
    | .error f => .flawed f, p.rest⟩

mutual

/-- Read a value.  `depth` is the number of arrays and objects around it; the
first argument bounds the number of steps. -/
def readValue : Nat → Nat → List Char → Piece Draft
  | 0, _, _ => ⟨.flawed (.fatal .eofInValue), none⟩
  | steps + 1, depth, cs =>
    match skipSpace cs with
    | [] => ⟨.flawed (.fatal .eofInValue), none⟩
    | c :: rest =>
      match c with
      | 'n' => readWord .null ['u', 'l', 'l'] rest
      | 't' => readWord (.bool true) ['r', 'u', 'e'] rest
      | 'f' => readWord (.bool false) ['a', 'l', 's', 'e'] rest
      | '-' => (readNumber true rest).toDraft
      | '"' =>
        let p := readString none .plain [] rest
        ⟨match p.got with
          | .ok s => .string s
          | .error f => .flawed f, p.rest⟩
      | '[' =>
        let p := readItems steps (depth + 1) true rest
        ⟨.array (greatestDepth < depth + 1) p.got.1 p.got.2, p.rest⟩
      | '\x7b' =>
        let p := readMembers steps (depth + 1) true rest
        ⟨.object (greatestDepth < depth + 1) p.got.1 p.got.2, p.rest⟩
      | _ =>
        if c.isDigit then (readNumber false (c :: rest)).toDraft
        else ⟨.flawed (.fatal .expectedValue), none⟩

/-- Read the items of an array; `first` before its first item. -/
def readItems : Nat → Nat → Bool → List Char → Piece (List Draft × Option Flaw)
  | 0, _, _, _ => ⟨([], some (.fatal .eofInArray)), none⟩
  | steps + 1, depth, first, cs =>
    let stop (f : Flaw) : Piece (List Draft × Option Flaw) := ⟨([], some f), none⟩
    let item (cs : List Char) : Piece (List Draft × Option Flaw) :=
      let p := readValue steps depth cs
      match p.rest with
      | none => ⟨([p.got], none), none⟩
      | some rest =>
        let q := readItems steps depth false rest
        ⟨(p.got :: q.got.1, q.got.2), q.rest⟩
    match skipSpace cs with
    | [] => stop (.fatal .eofInArray)
    | c :: rest =>
      if c == ']' then ⟨([], none), some rest⟩
      else if first then item (c :: rest)
      else if c == ',' then
        match skipSpace rest with
        | [] => stop (.fatal .eofInValue)
        | d :: rest =>
          if d == ']' then stop ⟨.trailingComma, some .expectedValue⟩ else item (d :: rest)
      else stop (.fatal .expectedCommaOrBracket)

/-- Read the members of an object; `first` before its first member. -/
def readMembers : Nat → Nat → Bool → List Char →
    Piece (List (Except Flaw String × Draft) × Option Flaw)
  | 0, _, _, _ => ⟨([], some (.fatal .eofInObject)), none⟩
  | steps + 1, depth, first, cs =>
    let stop (f : Flaw) : Piece (List (Except Flaw String × Draft) × Option Flaw) :=
      ⟨([], some f), none⟩
    let member (cs : List Char) : Piece (List (Except Flaw String × Draft) × Option Flaw) :=
      let k := readString none .plain [] cs
      let only (d : Draft) : Piece (List (Except Flaw String × Draft) × Option Flaw) :=
        ⟨([(k.got, d)], none), none⟩
      match k.rest with
      | none => only .null
      | some rest =>
        match skipSpace rest with
        | ':' :: rest =>
          let p := readValue steps depth rest
          match p.rest with
          | none => only p.got
          | some rest =>
            let q := readMembers steps depth false rest
            ⟨((k.got, p.got) :: q.got.1, q.got.2), q.rest⟩
        | [] => only (.flawed (.fatal .eofInObject))
        | _ => only (.flawed (.fatal .expectedColon))
    match skipSpace cs with
    | [] => stop (.fatal .eofInObject)
    | c :: rest =>
      if c == '\x7d' then ⟨([], none), some rest⟩
      else if first then
        if c == '"' then member rest else stop (.fatal .keyNotString)
      else if c == ',' then
        match skipSpace rest with
        | [] => stop ⟨.eofInValue, some .eofInObject⟩
        | d :: rest =>
          if d == '"' then member rest
          else if d == '\x7d' then stop ⟨.trailingComma, some .keyNotString⟩
          else stop (.fatal .keyNotString)
      else stop (.fatal .expectedCommaOrBrace)

end

/-- Read a whole text. -/
def ofChars (cs : List Char) : JsonText :=
  let p := readValue (2 * cs.length + 2) 0 cs
  ⟨p.got, match p.rest with
    | some rest => !(skipSpace rest).isEmpty
    | none => false⟩

/-- Read a whole text. -/
def read (s : String) : JsonText := ofChars s.toList

end ApiPlaybook.JsonText

namespace ApiPlaybook

/-- The value that a text denotes. -/
def Json.parse (s : String) : Except SyntaxError Json := (JsonText.read s).value

end ApiPlaybook
