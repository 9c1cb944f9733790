/-
  ApiPlaybook.Json.Printer
  ────────────────────────
  **WRITING JSON TEXTS.**

  The text of a value is compact: no blank outside strings, and in strings only
  the quote, the backslash and control characters below U+0020 are escaped.
-/
import ApiPlaybook.Json.Basic
import ApiPlaybook.Number.Shortest

namespace ApiPlaybook

/-- The text of an integer. -/
def integerText (i : Int) : List Char :=
  if i < 0 then '-' :: Nat.toDigits 10 i.natAbs else Nat.toDigits 10 i.natAbs

/-- The text of a number. -/
def Number.render : Number → List Char
  | .integer i => integerText i
  | .float x => x.render .json

namespace Json

/-- A lower-case hexadecimal digit. -/
def hexChar (n : Nat) : Char := if n < 10 then Char.ofNat (48 + n) else Char.ofNat (87 + n)

/-- A character inside a quoted string. -/
def escapeChar (c : Char) : List Char :=
  if c = '"' then ['\\', '"']
  else if c = '\\' then ['\\', '\\']
  else if c.toNat < 0x20 then
    match c.toNat with
    | 0x08 => ['\\', 'b']
    | 0x09 => ['\\', 't']
    | 0x0a => ['\\', 'n']
    | 0x0c => ['\\', 'f']
    | 0x0d => ['\\', 'r']
    | n => ['\\', 'u', '0', '0', hexChar (n / 16), hexChar (n % 16)]
  else [c]

/-- A quoted string. -/
def quote (s : String) : List Char := '"' :: (s.toList.flatMap escapeChar ++ ['"'])

mutual

/-- The text of a value. -/
def render : Json → List Char
  | .null => ['n', 'u', 'l', 'l']
  | .bool true => ['t', 'r', 'u', 'e']
  | .bool false => ['f', 'a', 'l', 's', 'e']
  | .number n => n.render
  | .string s => quote s
  | .array [] => ['[', ']']
  | .array (item :: rest) => '[' :: (render item ++ renderItems rest)
  | .object [] => ['\x7b', '\x7d']
  | .object ((name, value) :: rest) =>
    '\x7b' :: (quote name ++ ':' :: (render value ++ renderMembers rest))

/-- The items after the first one. -/
def renderItems : List Json → List Char
  | [] => [']']
  | item :: rest => ',' :: (render item ++ renderItems rest)

/-- The members after the first one. -/
def renderMembers : List (String × Json) → List Char
  | [] => ['\x7d']
  | (name, value) :: rest =>
    ',' :: (quote name ++ ':' :: (render value ++ renderMembers rest))

end

/-- The text of a value. -/
def text (j : Json) : String := String.ofList j.render

/-- The form a value takes inside a longer text: a string is itself, null is
nothing, and anything else is its JSON text. -/
def inlineText : Json → String
  | .null => ""
  | .string s => s
  | j => j.text

end Json

end ApiPlaybook
