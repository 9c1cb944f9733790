/-
  ApiPlaybook.Unicode.Table
  ─────────────────────────
  **TABLES OF CODE POINTS.**

  Tables are kept as texts: words separated by blanks and line ends, numbers in decimal.  A
  set of code points is the list of its ranges, each written as the gap before
  it and its length; a function that is constant on long runs is looked up by
  the greatest start of a run that does not exceed the code point.
-/

namespace ApiPlaybook.Unicode

/-- The words of a text. -/
def words (s : String) : List String :=
  let (word, done) := s.foldl (fun (word, done) c =>
    if c == ' ' || c == '\n' then ("", if word.isEmpty then done else word :: done)
    else (word.push c, done)) ("", ([] : List String))
  (if word.isEmpty then done else word :: done).reverse

/-- The number that decimal digits denote. -/
def natOfText (s : String) : Nat := s.foldl (fun n c => 10 * n + (c.toNat - 48)) 0

/-- The numbers of a text. -/
def numbers (s : String) : List Nat := (words s).map natOfText

/-- Ranges from gaps and lengths. -/
def rangesFrom (start : Nat) : List Nat → List (Nat × Nat)
  | gap :: length :: rest =>
    (start + gap, start + gap + length - 1) :: rangesFrom (start + gap + length) rest
  | _ => []

/-- The ranges that a text lists. -/
def rangesOfText (s : String) : List (Nat × Nat) := rangesFrom 0 (numbers s)

/-- Halve the interval `[low, high)` of indices until the last entry whose key
does not exceed `n` is found. -/
def lastStartIn {α : Type} (key : α → Nat) (table : Array α) (n : Nat) :
    Nat → Nat → Nat → Nat
  | 0, low, _ => low
  | steps + 1, low, high =>
    if high ≤ low + 1 then low
    else
      let middle := (low + high) / 2
      match table[middle]? with
      | some e => if key e ≤ n then lastStartIn key table n steps middle high
        else lastStartIn key table n steps low middle
      | none => low

/-- The last entry whose key does not exceed `n`, in a table sorted by key. -/
def lastStart {α : Type} (key : α → Nat) (table : Array α) (n : Nat) : Option α :=
  match table[lastStartIn key table n (table.size.log2 + 2) 0 table.size]? with
  | some e => if key e ≤ n then some e else none
  | none => none

/-- Whether a code point lies in one of the ranges of a sorted table. -/
def inRanges (table : Array (Nat × Nat)) (n : Nat) : Bool :=
  match lastStart (·.1) table n with
  | some (_, last) => n ≤ last
  | none => false

end ApiPlaybook.Unicode
