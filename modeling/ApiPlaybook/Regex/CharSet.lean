/-
  ApiPlaybook.Regex.CharSet
  ─────────────────────────
  **SETS OF CHARACTERS.**

  A set is a sorted list of ranges of code points that neither overlap nor
  touch.  Union is the one operation that sorts; the others are complement and
  union, by De Morgan.
-/
import ApiPlaybook.Unicode.Folding

namespace ApiPlaybook

/-- A set of characters. -/
structure CharSet where
  /-- First and last code points, in order, with gaps between the ranges. -/
  ranges : List (Nat × Nat)
deriving DecidableEq, Inhabited

namespace CharSet

/-- The last code point. -/
def lastCodePoint : Nat := 0x10ffff

/-- Join sorted ranges that overlap or touch. -/
def joined : List (Nat × Nat) → List (Nat × Nat)
  | [] => []
  | [r] => [r]
  | (a, b) :: (c, d) :: rest =>
    if c ≤ b + 1 then joined ((a, max b d) :: rest)
    else (a, b) :: joined ((c, d) :: rest)
termination_by ranges => ranges.length

/-- The set of all characters in the ranges. -/
def ofRanges (ranges : List (Nat × Nat)) : CharSet :=
  ⟨joined (ranges.mergeSort fun r s => r.1 ≤ s.1)⟩

def empty : CharSet := ⟨[]⟩

def ofChar (c : Char) : CharSet := ⟨[(c.toNat, c.toNat)]⟩

/-- The gaps between ranges, from a code point on. -/
def gaps (start : Nat) : List (Nat × Nat) → List (Nat × Nat)
  | [] => if start ≤ lastCodePoint then [(start, lastCodePoint)] else []
  | (a, b) :: rest => if start < a then (start, a - 1) :: gaps (b + 1) rest else gaps (b + 1) rest

def complement (s : CharSet) : CharSet := ⟨gaps 0 s.ranges⟩

def union (s t : CharSet) : CharSet := ofRanges (s.ranges ++ t.ranges)

def inter (s t : CharSet) : CharSet := (s.complement.union t.complement).complement

def diff (s t : CharSet) : CharSet := s.inter t.complement

def symmDiff (s t : CharSet) : CharSet := (s.diff t).union (t.diff s)

/-- Whether all characters are ASCII. -/
def isAscii (s : CharSet) : Bool := s.ranges.all fun r => r.2 ≤ 0x7f

/-- Whether a code point is in one of the ranges. -/
def holds (s : CharSet) (n : Nat) : Bool := s.ranges.any fun r => r.1 ≤ n && n ≤ r.2

/-- The set with all characters that equal one of its own up to case. -/
def foldCase (s : CharSet) : CharSet :=
  let table := s.ranges.toArray
  let more := Unicode.orbitTable.foldl (fun acc (n, orbit) =>
    if Unicode.inRanges table n then orbit.map (fun m => (m, m)) ++ acc else acc) []
  ofRanges (s.ranges ++ more)

/-- The set with both cases of its ASCII letters. -/
def foldAsciiCase (s : CharSet) : CharSet :=
  let letters (first shifted : Nat) : List (Nat × Nat) :=
    (List.range 26).filterMap fun i =>
      if s.holds (first + i) then some (shifted + i, shifted + i) else none
  ofRanges (s.ranges ++ letters 65 97 ++ letters 97 65)

end CharSet

end ApiPlaybook
