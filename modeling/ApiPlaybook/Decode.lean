/-
  ApiPlaybook.Decode
  ──────────────────
  **READING RECORDS OUT OF DOCUMENTS.**

  Playbooks are written in JSON or YAML, and parts of them arrive as JSON
  values.  What a record needs of a document is the class `Source`: a text, a
  flag, a list, named members, a free value.  A reader written over `Source`
  reads all of them.  Members are read in the order of the document, so of
  several faults the first one is reported.

  `readRecord` is the one reader for structures: it takes the members in any
  order, refuses a repeated one, passes over unknown ones, and fills in what is
  absent and not required.
-/
import ApiPlaybook.Json.Draft
import ApiPlaybook.Json.Printer
import ApiPlaybook.Text.Quoted
import ApiPlaybook.Text.Blank

namespace ApiPlaybook

/-! ## §1. What can go wrong. -/

/-- What stands where something else was expected. -/
inductive Shape where
  | null
  | bool (b : Bool)
  | number (n : Number)
  | string (s : String)
  | array
  | object

/-- A well-formed document that does not fit the record. -/
inductive Misfit where
  | wrongType (found : Shape) (expected : String)
  | missingMember (name : String)
  | repeatedMember (name : String)
  | unknownChoice (given : String) (choices : List String)
  | wrongLength (length : Nat) (expected : String)
  | noAlternative (name : String)

/-- Why a document is refused. -/
inductive DecodeError where
  /-- The text is no well-formed document. -/
  | malformed (e : SyntaxError)
  /-- The document has another shape than the record. -/
  | misfit (m : Misfit)
  /-- A YAML document is refused without a reason. -/
  | unreadable

/-- A text between backticks. -/
def ticked (s : String) : String := "`" ++ s ++ "`"

def Shape.message : Shape → String
  | .null => "null"
  | .bool true => "boolean `true`"
  | .bool false => "boolean `false`"
  | .number (.integer i) => "integer " ++ ticked (String.ofList (integerText i))
  | .number (.float x) => "floating point " ++ ticked (String.ofList (x.render .json))
  | .string s => "string " ++ quotedText s
  | .array => "sequence"
  | .object => "map"

/-- The admitted choices, as an error names them. -/
def choicesText (choices : List String) : String :=
  match choices.map ticked with
  | [] => "there are no variants"
  | [a] => "expected " ++ a
  | [a, b] => "expected " ++ a ++ " or " ++ b
  | many => "expected one of " ++ ", ".intercalate many

def Misfit.message : Misfit → String
  | .wrongType found expected => "invalid type: " ++ found.message ++ ", expected " ++ expected
  | .missingMember name => "missing field " ++ ticked name
  | .repeatedMember name => "duplicate field " ++ ticked name
  | .unknownChoice given choices =>
    "unknown variant " ++ ticked given ++ ", " ++ choicesText choices
  | .wrongLength length expected =>
    "invalid length " ++ decimal length ++ ", expected " ++ expected
  | .noAlternative name => "data did not match any variant of untagged enum " ++ name

/-- The wording of a refusal; a YAML document has none. -/
def DecodeError.message : DecodeError → String
  | .malformed e => e.message
  | .misfit m => m.message
  | .unreadable => ""

/-! ## §2. What a record needs of a document. -/

/-- The items of a list, and what is wrong behind them: `close` to a reader who
asks for one more item, `finish` to one who has all it wants, and `surplus` to
one who stops earlier. -/
structure Series (σ : Type) where
  items : List σ
  close : Except DecodeError Unit
  finish : Except DecodeError Unit
  surplus : Except DecodeError Unit

/-- Named members in the order of the document, and what is wrong behind them. -/
structure Members (σ : Type) where
  entries : List (Except DecodeError String × σ)
  close : Except DecodeError Unit

/-- A kind of document that records are read out of.  `expected` names what
the reader wants in an error. -/
class Source (σ : Type) where
  text : (expected : String) → σ → Except DecodeError String
  flag : σ → Except DecodeError Bool
  /-- Nothing for a null. -/
  optional : σ → Except DecodeError (Option σ)
  series : σ → Except DecodeError (Series σ)
  members : (expected : String) → σ → Except DecodeError (Members σ)
  /-- The members of a record, by name or, in JSON, one after the other. -/
  record : (expected : String) → σ → Except DecodeError (Members σ ⊕ Series σ)
  /-- One of a few words. -/
  choice : (choices : List String) → σ → Except DecodeError String
  free : σ → Except DecodeError Json
  /-- Pass over a value. -/
  skip : σ → Except DecodeError Unit

variable {σ ρ α : Type}

/-! ## §3. Readers for simple shapes. -/

/-- A text. -/
def readText [Source σ] (x : σ) : Except DecodeError String := Source.text "a string" x

/-- A value that may be null. -/
def readOptional [Source σ] (read : σ → Except DecodeError α) (x : σ) :
    Except DecodeError (Option α) := do
  match ← Source.optional x with
  | some x => return some (← read x)
  | none => return none

/-- A list. -/
def readList [Source σ] (read : σ → Except DecodeError α) (x : σ) :
    Except DecodeError (List α) := do
  let s ← Source.series x
  let vs ← s.items.mapM read
  s.close
  return vs

/-- Members put into a map one after the other. -/
def readEntries (read : σ → Except DecodeError α) :
    NameMap α → List (Except DecodeError String × σ) → Except DecodeError (NameMap α)
  | acc, [] => .ok acc
  | acc, (key, x) :: rest => do
    let name ← key
    let v ← read x
    readEntries read (acc.insert name v) rest

/-- A map from names; the last member of a name counts. -/
def readMap [Source σ] (read : σ → Except DecodeError α) (x : σ) :
    Except DecodeError (NameMap α) := do
  let ms ← Source.members "a map" x
  let m ← readEntries read .empty ms.entries
  ms.close
  return m

/-- One of a few words, as the value that stands for it. -/
def readChoice [Source σ] (choices : List (String × α)) (x : σ) : Except DecodeError α := do
  let words := choices.map (·.1)
  let word ← Source.choice words x
  match choices.find? (·.1 == word) with
  | some (_, v) => return v
  | none => throw (.misfit (.unknownChoice word words))

/-! ## §4. Records. -/

/-- A member of a record: how its value changes the record read so far. -/
structure Member (σ ρ : Type) where
  name : String
  required : Bool
  read : σ → ρ → Except DecodeError ρ

/-- A member that must be there. -/
def Member.needs (name : String) (read : σ → Except DecodeError α) (put : ρ → α → ρ) :
    Member σ ρ :=
  ⟨name, true, fun x r => return put r (← read x)⟩

/-- A member that may be absent. -/
def Member.allows (name : String) (read : σ → Except DecodeError α) (put : ρ → α → ρ) :
    Member σ ρ :=
  ⟨name, false, fun x r => return put r (← read x)⟩

/-- Read members by name; `seen` holds the names met so far. -/
def readNamed [Source σ] (fields : List (Member σ ρ)) (close : Except DecodeError Unit)
    (seen : List String) (r : ρ) :
    List (Except DecodeError String × σ) → Except DecodeError ρ
  | [] => do
    close
    match fields.find? fun f => f.required && !seen.contains f.name with
    | some f => throw (.misfit (.missingMember f.name))
    | none => return r
  | (key, x) :: rest => do
    let name ← key
    match fields.find? (·.name == name) with
    | none =>
      Source.skip x
      readNamed fields close seen r rest
    | some f =>
      if seen.contains name then throw (.misfit (.repeatedMember name))
      let r ← f.read x r
      readNamed fields close (name :: seen) r rest

/-- Read members in the order of their declaration. -/
def readPositional (expected : String) (s : Series σ) (index : Nat) (r : ρ) :
    List (Member σ ρ) → List σ → Except DecodeError ρ
  | [], [] => do
    s.finish
    return r
  | [], _ :: _ => do
    s.surplus
    return r
  | f :: fields, [] => do
    s.close
    if f.required then throw (.misfit (.wrongLength index expected))
    readPositional expected s (index + 1) r fields []
  | f :: fields, x :: rest => do
    let r ← f.read x r
    readPositional expected s (index + 1) r fields rest

/-- Read a record of the given name, starting from `start`. -/
def readRecord [Source σ] (name : String) (fields : List (Member σ ρ)) (start : ρ) (x : σ) :
    Except DecodeError ρ := do
  let expected := "struct " ++ name
  match ← Source.record expected x with
  | .inl ms => readNamed fields ms.close [] start ms.entries
  | .inr s =>
    let count := fields.length
    let expected := expected ++ " with " ++ decimal count
      ++ (if count = 1 then " element" else " elements")
    readPositional expected s 0 start fields s.items

/-! ## §5. JSON texts. -/

namespace Draft

/-- What a draft shows, to an error that names it. -/
def shape : Draft → Except DecodeError Shape
  | .null => .ok .null
  | .bool b => .ok (.bool b)
  | .number n => .ok (.number n)
  | .string s => .ok (.string s)
  | .flawed f => .error (.malformed f.whenRead)
  | .array .. => .ok .array
  | .object .. => .ok .object

/-- Refuse a draft of the wrong type. -/
def reject (expected : String) (d : Draft) : Except DecodeError α := do
  throw (.misfit (.wrongType (← d.shape) expected))

def asError (e : Except SyntaxError α) : Except DecodeError α := e.mapError .malformed

/-- What is wrong behind the last item, to a reader who wants no more items. -/
def finishFault : Option Flaw → Except DecodeError Unit
  | none => .ok ()
  | some f => .error (.malformed (match f.whenRead with
    | .expectedCommaOrBracket => .trailingCharacters
    | .eofInValue => .trailingCharacters
    | e => e))

def series (deep : Bool) (items : List Draft) (close : Option Flaw) :
    Except DecodeError (Series Draft) :=
  if deep then .error (.malformed .tooDeep)
  else .ok ⟨items, asError (refuse close), finishFault close,
    .error (.malformed .trailingCharacters)⟩

def members (deep : Bool) (entries : List (Except Flaw String × Draft)) (close : Option Flaw) :
    Except DecodeError (Members Draft) :=
  if deep then .error (.malformed .tooDeep)
  else .ok ⟨entries.map fun e => (asError (nameOf e.1), e.2), asError (refuse close)⟩

/-- A word, or an object whose one member has that name and is null. -/
def choice (choices : List String) : Draft → Except DecodeError String
  | .string s =>
    if choices.contains s then .ok s else .error (.misfit (.unknownChoice s choices))
  | .flawed f => .error (.malformed f.whenRead)
  | .object true _ _ => .error (.malformed .tooDeep)
  | .object false [] none => .error (.malformed .expectedValue)
  | .object false [] (some f) => .error (.malformed f.whenRead)
  | .object false ((key, d) :: rest) close => do
    let s ← asError (nameOf key)
    if !choices.contains s then throw (.misfit (.unknownChoice s choices))
    match d with
    | .null => pure ()
    | d => reject "unit" d
    match rest, close with
    | [], none => return s
    | [], some ⟨.eofInObject, _⟩ => throw (.malformed .eofInObject)
    | _, _ => throw (.malformed .expectedValue)
  | _ => .error (.malformed .expectedValue)

instance : Source Draft where
  text expected
    | .string s => .ok s
    | d => d.reject expected
  flag
    | .bool b => .ok b
    | d => d.reject "a boolean"
  optional
    | .null => .ok none
    | d => .ok (some d)
  series
    | .array deep items close => Draft.series deep items close
    | d => d.reject "a sequence"
  members expected
    | .object deep entries close => Draft.members deep entries close
    | d => d.reject expected
  record expected
    | .object deep entries close => return .inl (← Draft.members deep entries close)
    | .array deep items close => return .inr (← Draft.series deep items close)
    | d => d.reject expected
  choice := Draft.choice
  free d := asError d.value
  skip d := asError d.skip

end Draft

/-- Read a record out of a JSON text. -/
def decodeText (read : Draft → Except DecodeError α) (t : JsonText) : Except DecodeError α := do
  let v ← read t.root
  if t.trailing then throw (.malformed .trailingCharacters)
  return v

/-! ## §6. JSON values. -/

namespace Json

def shape : Json → Shape
  | .null => .null
  | .bool b => .bool b
  | .number n => .number n
  | .string s => .string s
  | .array _ => .array
  | .object _ => .object

/-- Refuse a value of the wrong type. -/
def reject (expected : String) (j : Json) : Except DecodeError α :=
  .error (.misfit (.wrongType j.shape expected))

def series (items : List Json) : Series Json :=
  ⟨items, .ok (), .ok (), .error (.misfit (.wrongLength items.length "fewer elements in array"))⟩

def members (entries : List (String × Json)) : Members Json :=
  ⟨entries.map fun e => (.ok e.1, e.2), .ok ()⟩

instance : Source Json where
  text expected
    | .string s => .ok s
    | j => j.reject expected
  flag
    | .bool b => .ok b
    | j => j.reject "a boolean"
  optional
    | .null => .ok none
    | j => .ok (some j)
  series
    | .array items => .ok (Json.series items)
    | j => j.reject "a sequence"
  members expected
    | .object entries => .ok (Json.members entries)
    | j => j.reject expected
  record expected
    | .object entries => .ok (.inl (Json.members entries))
    | .array items => .ok (.inr (Json.series items))
    | j => j.reject expected
  choice choices
    | .string s =>
      if choices.contains s then .ok s else .error (.misfit (.unknownChoice s choices))
    | .object [(s, .null)] =>
      if choices.contains s then .ok s else .error (.misfit (.unknownChoice s choices))
    | j => j.reject "string or map"
  free j := .ok j
  skip _ := .ok ()

end Json

end ApiPlaybook
