/-
  ApiPlaybook.Text.Quoted
  ───────────────────────
  **TEXTS QUOTED IN MESSAGES.**

  A message that names a text it was given puts it in double quotes.  Quotes,
  backslashes and line ends inside it are escaped, and so is every character
  that would not show or would melt into its neighbour: those of the categories
  other, separator (but the blank itself) and the extenders of a grapheme.
-/
import ApiPlaybook.Unicode.Category
import ApiPlaybook.Unicode.Property

namespace ApiPlaybook

/-- Extenders of a grapheme. -/
def graphemeExtenders : Array (Nat × Nat) :=
  match Unicode.properties.find? (·.1.contains "Grapheme_Extend") with
  | some (_, ranges) => (Unicode.rangesOfText ranges).toArray
  | none => #[]

/-- Whether a character shows when it is printed. -/
def isPrintable (c : Char) : Bool :=
  match Unicode.category c.toNat with
  | .control | .format | .surrogate | .privateUse | .unassigned
  | .lineSeparator | .paragraphSeparator => false
  | .spaceSeparator => c == ' '
  | _ => true

/-- A character inside a quoted text. -/
def quotedChar (c : Char) : List Char :=
  if c.toNat = 0 then ['\\', '0']
  else if c = '\t' then ['\\', 't']
  else if c = '\r' then ['\\', 'r']
  else if c = '\n' then ['\\', 'n']
  else if c = '\\' then ['\\', '\\']
  else if c = '"' then ['\\', '"']
  else if Unicode.inRanges graphemeExtenders c.toNat || !isPrintable c then
    ['\\', 'u', '\x7b'] ++ Nat.toDigits 16 c.toNat ++ ['\x7d']
  else [c]

/-- A text in quotes. -/
def quotedText (s : String) : String :=
  String.ofList ('"' :: (s.toList.flatMap quotedChar ++ ['"']))

/-- A list of texts in quotes. -/
def quotedTexts (ts : List String) : String :=
  "[" ++ ", ".intercalate (ts.map quotedText) ++ "]"

end ApiPlaybook
