/-
  ApiPlaybook.Regex.Named
  ───────────────────────
  **NAMED CLASSES OF CHARACTERS.**

  Digits, blanks and word characters, the classes of POSIX, and the properties,
  general categories and scripts of Unicode.  Names of the latter are compared
  without case, blanks, hyphens and underscores, and without a leading `is`.
-/
import ApiPlaybook.Regex.CharSet
import ApiPlaybook.Unicode.Category
import ApiPlaybook.Unicode.Property
import ApiPlaybook.Unicode.Script

namespace ApiPlaybook

namespace CharSet

/-! ## §1. Unicode. -/

/-- The set of a table of gaps and lengths. -/
def ofTable (s : String) : CharSet := ⟨Unicode.rangesOfText s⟩

/-- A name as it is compared. -/
def looseName (s : String) : String :=
  let bare (cs : List Char) : List Char :=
    (cs.filter fun c => c.toNat < 0x80 && !(c == ' ' || c == '_' || c == '-')).map Char.toLower
  match s.toList with
  | a :: b :: rest =>
    if (a == 'i' || a == 'I') && (b == 's' || b == 'S') then
      if bare rest == ['c'] then "isc" else String.ofList (bare rest)
    else String.ofList (bare (a :: b :: rest))
  | cs => String.ofList (bare cs)

/-- The entry of a table that goes by a name. -/
def findNamed (table : List (List String × String)) (name : String) : Option CharSet :=
  (table.find? fun e => (e.1.map looseName).contains name).map fun e => ofTable e.2

/-- The characters with a property. -/
def property? (name : String) : Option CharSet := findNamed Unicode.properties name

/-- The characters of a script. -/
def script? (name : String) : Option CharSet := findNamed Unicode.scripts name

/-- The names of each general category and of each group of them, with the
codes of the categories meant. -/
def categoryNames : List (List String × List String) := [
  (["Lu", "Uppercase_Letter"], ["Lu"]),
  (["Ll", "Lowercase_Letter"], ["Ll"]),
  (["Lt", "Titlecase_Letter"], ["Lt"]),
  (["LC", "Cased_Letter"], ["Lu", "Ll", "Lt"]),
  (["Lm", "Modifier_Letter"], ["Lm"]),
  (["Lo", "Other_Letter"], ["Lo"]),
  (["L", "Letter"], ["Lu", "Ll", "Lt", "Lm", "Lo"]),
  (["Mn", "Nonspacing_Mark"], ["Mn"]),
  (["Mc", "Spacing_Mark"], ["Mc"]),
  (["Me", "Enclosing_Mark"], ["Me"]),
  (["M", "Mark", "Combining_Mark"], ["Mn", "Mc", "Me"]),
  (["Nd", "Decimal_Number", "digit"], ["Nd"]),
  (["Nl", "Letter_Number"], ["Nl"]),
  (["No", "Other_Number"], ["No"]),
  (["N", "Number"], ["Nd", "Nl", "No"]),
  (["Pc", "Connector_Punctuation"], ["Pc"]),
  (["Pd", "Dash_Punctuation"], ["Pd"]),
  (["Ps", "Open_Punctuation"], ["Ps"]),
  (["Pe", "Close_Punctuation"], ["Pe"]),
  (["Pi", "Initial_Punctuation"], ["Pi"]),
  (["Pf", "Final_Punctuation"], ["Pf"]),
  (["Po", "Other_Punctuation"], ["Po"]),
  (["P", "Punctuation", "punct"], ["Pc", "Pd", "Ps", "Pe", "Pi", "Pf", "Po"]),
  (["Sm", "Math_Symbol"], ["Sm"]),
  (["Sc", "Currency_Symbol"], ["Sc"]),
  (["Sk", "Modifier_Symbol"], ["Sk"]),
  (["So", "Other_Symbol"], ["So"]),
  (["S", "Symbol"], ["Sm", "Sc", "Sk", "So"]),
  (["Zs", "Space_Separator"], ["Zs"]),
  (["Zl", "Line_Separator"], ["Zl"]),
  (["Zp", "Paragraph_Separator"], ["Zp"]),
  (["Z", "Separator"], ["Zs", "Zl", "Zp"]),
  (["Cc", "Control", "cntrl"], ["Cc"]),
  (["Cf", "Format"], ["Cf"]),
  (["Cs", "Surrogate"], ["Cs"]),
  (["Co", "Private_Use"], ["Co"]),
  (["Cn", "Unassigned"], ["Cn"]),
  (["C", "Other"], ["Cc", "Cf", "Cs", "Co", "Cn"])]

/-- The characters of some general categories. -/
def ofCategories (p : Unicode.Category → Bool) : CharSet := ⟨Unicode.categoryRanges p⟩

/-- The characters of a general category or a group of them. -/
def category? (name : String) : Option CharSet :=
  match name with
  | "any" => some empty.complement
  | "ascii" => some ⟨[(0, 0x7f)]⟩
  | "assigned" => some (ofCategories fun c => c != .unassigned)
  | _ =>
    (categoryNames.find? fun e => (e.1.map looseName).contains name).map fun e =>
      ofCategories fun c => e.2.contains c.code

/-- The characters that a single name stands for: a property, a general
category or a script, in this order. -/
def named? (name : String) : Option CharSet :=
  let name := looseName name
  let property := if ["cf", "sc", "lc"].contains name then none else property? name
  property.or ((category? name).or (script? name))

/-- The characters for which a property has a value. -/
def valued? (name value : String) : Option CharSet :=
  let value := looseName value
  match looseName name with
  | "gc" | "generalcategory" => category? value
  | "sc" | "script" => script? value
  | "scx" | "scriptextensions" => script? value
  | _ => none

/-- A property that all properties list. -/
def properties (name : String) : CharSet := (property? (looseName name)).getD empty

/-! ## §2. Digits, blanks, words. -/

/-- Decimal digits of all scripts. -/
def digit : CharSet := ofCategories (· == .decimalNumber)

def blank : CharSet := properties "White_Space"

/-- Letters, marks, digits, connectors and joiners. -/
def word : CharSet :=
  ((properties "Alphabetic").union (properties "Join_Control")).union
    (ofCategories fun c => c.isMark || c == .decimalNumber || c == .connectorPunctuation)

def letter : CharSet := properties "Alphabetic"

/-- Letters and numbers of any kind. -/
def letterOrNumber : CharSet :=
  letter.union (ofCategories fun c =>
    c == .decimalNumber || c == .letterNumber || c == .otherNumber)

def asciiDigit : CharSet := ⟨[(0x30, 0x39)]⟩

def asciiBlank : CharSet := ⟨[(0x09, 0x0d), (0x20, 0x20)]⟩

def asciiWord : CharSet := ⟨[(0x30, 0x39), (0x41, 0x5a), (0x5f, 0x5f), (0x61, 0x7a)]⟩

/-! ## §3. Classes of POSIX. -/

/-- The ASCII characters of a class of POSIX. -/
def posix? : String → Option CharSet
  | "alnum" => some ⟨[(0x30, 0x39), (0x41, 0x5a), (0x61, 0x7a)]⟩
  | "alpha" => some ⟨[(0x41, 0x5a), (0x61, 0x7a)]⟩
  | "ascii" => some ⟨[(0x00, 0x7f)]⟩
  | "blank" => some ⟨[(0x09, 0x09), (0x20, 0x20)]⟩
  | "cntrl" => some ⟨[(0x00, 0x1f), (0x7f, 0x7f)]⟩
  | "digit" => some asciiDigit
  | "graph" => some ⟨[(0x21, 0x7e)]⟩
  | "lower" => some ⟨[(0x61, 0x7a)]⟩
  | "print" => some ⟨[(0x20, 0x7e)]⟩
  | "punct" => some ⟨[(0x21, 0x2f), (0x3a, 0x40), (0x5b, 0x60), (0x7b, 0x7e)]⟩
  | "space" => some asciiBlank
  | "upper" => some ⟨[(0x41, 0x5a)]⟩
  | "word" => some asciiWord
  | "xdigit" => some ⟨[(0x30, 0x39), (0x41, 0x46), (0x61, 0x66)]⟩
  | _ => none

end CharSet

end ApiPlaybook
