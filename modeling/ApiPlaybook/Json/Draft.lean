/-
  ApiPlaybook.Json.Draft
  ──────────────────────
  **JSON TEXTS AS FAR AS THEY CAN BE READ.**

  Which fault of a text is reported depends on what is asked of it: a bundle
  whose first member has the wrong type is reported for that, however broken
  the text is further on, and a member nobody asks for may hold what a reader
  of its value would refuse.  So a text is first read into a `Draft`, which
  holds what could be read and, at its place, each `Flaw`; whoever takes the
  draft apart meets the flaws in the order of the text.

  `Draft.value` asks for everything, `Draft.skip` for nothing.
-/
import ApiPlaybook.Json.Basic

namespace ApiPlaybook

/-! ## §1. Faults. -/

/-- A fault of a text that should be JSON. -/
inductive SyntaxError where
  | eofInArray
  | eofInObject
  | eofInString
  | eofInValue
  | expectedColon
  | expectedCommaOrBracket
  | expectedCommaOrBrace
  | expectedWord
  | expectedValue
  | invalidEscape
  | invalidNumber
  | numberOutOfRange
  | controlCharacter
  | keyNotString
  | keyNotFinite
  | loneSurrogate
  | trailingComma
  | trailingCharacters
  | unfinishedSurrogatePair
  | tooDeep
deriving DecidableEq, Inhabited

/-- The wording of a fault. -/
def SyntaxError.message : SyntaxError → String
  | .eofInArray => "EOF while parsing a list"
  | .eofInObject => "EOF while parsing an object"
  | .eofInString => "EOF while parsing a string"
  | .eofInValue => "EOF while parsing a value"
  | .expectedColon => "expected `:`"
  | .expectedCommaOrBracket => "expected `,` or `]`"
  | .expectedCommaOrBrace => "expected `,` or `\x7d`"
  | .expectedWord => "expected ident"
  | .expectedValue => "expected value"
  | .invalidEscape => "invalid escape"
  | .invalidNumber => "invalid number"
  | .numberOutOfRange => "number out of range"
  | .controlCharacter =>
    "control character (\\u0000-\\u001F) found while parsing a string"
  | .keyNotString => "key must be a string"
  | .keyNotFinite => "float key must be finite (got NaN or +/-inf)"
  | .loneSurrogate => "lone leading surrogate in hex escape"
  | .trailingComma => "trailing comma"
  | .trailingCharacters => "trailing characters"
  | .unfinishedSurrogatePair => "unexpected end of hex escape"
  | .tooDeep => "recursion limit exceeded"

/-- A fault at one place of a text: what is reported when the value there is
asked for, and what is reported when it is only skipped.  Skipping goes on
where the second is absent. -/
structure Flaw where
  whenRead : SyntaxError
  whenSkipped : Option SyntaxError
deriving DecidableEq

/-- A fault that stops every reader. -/
def Flaw.fatal (e : SyntaxError) : Flaw := ⟨e, some e⟩

/-! ## §2. Drafts. -/

/-- A JSON text as far as it could be read. -/
inductive Draft where
  | null
  | bool (b : Bool)
  | number (n : Number)
  | string (s : String)
  | flawed (flaw : Flaw)
  /-- `deep` marks an array beyond the greatest depth; `close` is what is wrong
  after the last item. -/
  | array (deep : Bool) (items : List Draft) (close : Option Flaw)
  /-- Members in the order of the text, repeated names included. -/
  | object (deep : Bool) (members : List (Except Flaw String × Draft)) (close : Option Flaw)
deriving Inhabited

/-- A whole text: one value, and whether something other than blanks follows. -/
structure JsonText where
  root : Draft
  trailing : Bool

namespace Draft

/-- Report a flaw to a reader who asks for the value. -/
def refuse (f : Option Flaw) : Except SyntaxError Unit :=
  match f with
  | some f => .error f.whenRead
  | none => .ok ()

/-- Report a flaw to a reader who skips. -/
def refuseSkipped (f : Option Flaw) : Except SyntaxError Unit :=
  match f.bind (·.whenSkipped) with
  | some e => .error e
  | none => .ok ()

/-- The name of a member, when it can be read. -/
def nameOf (key : Except Flaw String) : Except SyntaxError String :=
  key.mapError (·.whenRead)

mutual

/-- The value of a draft, or the first fault met. -/
def value : Draft → Except SyntaxError Json
  | .null => .ok .null
  | .bool b => .ok (.bool b)
  | .number n => .ok (.number n)
  | .string s => .ok (.string s)
  | .flawed f => .error f.whenRead
  | .array deep items close =>
    if deep then .error .tooDeep
    else do
      let vs ← valueItems items
      refuse close
      return .array vs
  | .object deep members close =>
    if deep then .error .tooDeep
    else do
      let ms ← valueMembers [] members
      refuse close
      return .object ms

def valueItems : List Draft → Except SyntaxError (List Json)
  | [] => .ok []
  | item :: rest => do
    let v ← value item
    let vs ← valueItems rest
    return v :: vs

/-- Members are put in turn into `acc`, so that the last one of a name counts. -/
def valueMembers (acc : List (String × Json)) :
    List (Except Flaw String × Draft) → Except SyntaxError (List (String × Json))
  | [] => .ok acc
  | (key, item) :: rest => do
    let name ← nameOf key
    let v ← value item
    valueMembers (insertEntry name v acc) rest

end

mutual

/-- The first fault that matters to a reader who skips the value. -/
def skip : Draft → Except SyntaxError Unit
  | .flawed f => refuseSkipped (some f)
  | .array _ items close => do
    skipItems items
    refuseSkipped close
  | .object _ members close => do
    skipMembers members
    refuseSkipped close
  | _ => .ok ()

def skipItems : List Draft → Except SyntaxError Unit
  | [] => .ok ()
  | item :: rest => do
    skip item
    skipItems rest

def skipMembers : List (Except Flaw String × Draft) → Except SyntaxError Unit
  | [] => .ok ()
  | (key, item) :: rest => do
    match key with
    | .error f => refuseSkipped (some f)
    | .ok _ => pure ()
    skip item
    skipMembers rest

end

end Draft

/-- The value of a whole text. -/
def JsonText.value (t : JsonText) : Except SyntaxError Json := do
  let v ← t.root.value
  if t.trailing then .error .trailingCharacters
  return v

end ApiPlaybook
