/-
  ApiPlaybook.Regex.Expr
  ──────────────────────
  **REGULAR EXPRESSIONS.**

  What a pattern says once it is read: sets of characters, conditions on a
  place, and their combinations.  Of several ways to match, the one that an
  earlier alternative or the greed of a repetition prefers counts.
-/
import ApiPlaybook.Regex.CharSet

namespace ApiPlaybook.Regex

/-- Which places at the edge of a word are meant. -/
inductive WordEdge where
  | boundary
  | inside
  | start
  | «end»
  | startHalf
  | endHalf
deriving DecidableEq, Inhabited

/-- A condition on a place in the text. -/
inductive Look where
  | textStart
  | textEnd
  /-- A line starts here; with `crlf`, a carriage return ends lines too. -/
  | lineStart (crlf : Bool)
  | lineEnd (crlf : Bool)
  | word (edge : WordEdge) (unicode : Bool)
deriving DecidableEq, Inhabited

/-- A regular expression. -/
inductive Expr where
  | empty
  | set (s : CharSet)
  | look (l : Look)
  | group (index : Nat) (e : Expr)
  | seq (e f : Expr)
  | alt (e f : Expr)
  | rep (e : Expr) (least : Nat) (most : Option Nat) (greedy : Bool)
deriving Inhabited

namespace Expr

/-- Whether only the empty text can be matched. -/
def matchesOnlyEmpty : Expr → Bool
  | .empty => true
  | .set _ => false
  | .look _ => true
  | .group _ e => e.matchesOnlyEmpty
  | .seq e f => e.matchesOnlyEmpty && f.matchesOnlyEmpty
  | .alt e f => e.matchesOnlyEmpty && f.matchesOnlyEmpty
  | .rep e _ most _ => most == some 0 || e.matchesOnlyEmpty

/-- Whether the empty text can be matched. -/
def matchesEmpty : Expr → Bool
  | .empty => true
  | .set _ => false
  | .look _ => true
  | .group _ e => e.matchesEmpty
  | .seq e f => e.matchesEmpty && f.matchesEmpty
  | .alt e f => e.matchesEmpty || f.matchesEmpty
  | .rep e least _ _ => least == 0 || e.matchesEmpty

/-- A repetition; what matches only the empty text is repeated at most once. -/
def repeated (e : Expr) (least : Nat) (most : Option Nat) (greedy : Bool) : Expr :=
  if e.matchesOnlyEmpty then
    .rep e (min least 1) (some (match most with
      | some n => min n 1
      | none => 1)) greedy
  else .rep e least most greedy

/-! ## Size. -/

/-- The weight of a set in the size of an expression: a character outside of
ASCII stands for several bytes. -/
def setSize (s : CharSet) : Nat :=
  if s.isAscii then
    if s.ranges.length ≤ 1 then 32 else 32 + 8 * s.ranges.length
  else match s.ranges with
    | [(a, b)] => if a = b then 128 else 320
    | ranges => 64 * (ranges.length + 4)

/-- The size of an expression in which every repetition is written out. -/
def size : Expr → Nat
  | .empty => 32
  | .set s => setSize s
  | .look _ => 32
  | .group _ e => 64 + e.size
  | .seq e f => e.size + f.size
  | .alt e f => 40 + e.size + f.size
  | .rep e least most _ =>
    match most with
    | some n => least * e.size + (n - least) * (40 + e.size) + 32
    | none => max least 1 * e.size + 40

/-- The greatest size of an expression that is accepted. -/
def maxSize : Nat := 10 * 1024 * 1024

end Expr

end ApiPlaybook.Regex
