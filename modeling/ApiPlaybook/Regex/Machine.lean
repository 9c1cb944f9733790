/-
  ApiPlaybook.Regex.Machine
  ─────────────────────────
  **RUNNING A PROGRAM.**

  All threads pass over the text together, character by character, in the order
  of preference.  A thread that accepts cuts off those behind it, so when no
  thread is left, the last one to accept is the preferred match with the least
  start.  At each place every instruction is visited once at most, so the time
  is bounded by the size of the program times the length of the text.
-/
import ApiPlaybook.Regex.Named
import ApiPlaybook.Regex.Pattern
import ApiPlaybook.Regex.Program

namespace ApiPlaybook.Regex

/-- What a thread knows: places in the text, counted in characters. -/
structure Capture where
  start : Nat
  stop : Nat
  groupStart : Option Nat
  groupStop : Option Nat
deriving DecidableEq, Inhabited

/-- A thread at an instruction. -/
structure Thread where
  at_ : Nat
  capture : Capture

/-- The word characters, for looking them up. -/
def wordTable : Array (Nat × Nat) := CharSet.word.ranges.toArray

/-- Whether a character belongs to a word. -/
def isWord (unicode : Bool) (c : Char) : Bool :=
  if unicode then Unicode.inRanges wordTable c.toNat
  else c.isAlphanum || c == '_'

/-- Whether a condition holds between two characters. -/
def Look.holds (before after : Option Char) : Look → Bool
  | .textStart => before.isNone
  | .textEnd => after.isNone
  | .lineStart false => before.all (· == '\n')
  | .lineEnd false => after.all (· == '\n')
  | .lineStart true =>
    before.all fun c => c == '\n' || (c == '\r' && after != some '\n')
  | .lineEnd true =>
    after.all fun c => c == '\r' || (c == '\n' && before != some '\r')
  | .word edge unicode =>
    let a := before.any (isWord unicode)
    let b := after.any (isWord unicode)
    match edge with
    | .boundary => a != b
    | .inside => a == b
    | .start => !a && b
    | .end => a && !b
    | .startHalf => !a
    | .endHalf => !b

/-- What is found at a place: the threads that wait for a character, in reverse
order of preference, and the match of a thread that accepted. -/
structure Closure where
  /-- For each instruction the last place where it was visited. -/
  visited : Array Nat
  waiting : List Thread
  accepted : Option Capture

/-- Follow threads as far as they go without a character.  `place` is counted
from one, as the marks in `visited` are. -/
def close (code : Code) (before after : Option Char) (place : Nat) :
    Nat → List Thread → Closure → Closure
  | 0, _, acc => acc
  | _, [], acc => acc
  | steps + 1, t :: rest, acc =>
    if acc.visited.getD t.at_ place == place then close code before after place steps rest acc
    else
      let visited := acc.visited.setIfInBounds t.at_ place
      let acc := ⟨visited, acc.waiting, acc.accepted⟩
      let go := close code before after place steps
      match code.getD t.at_ .accept with
      | .char .. => go rest { acc with waiting := t :: acc.waiting }
      | .look l next =>
        if l.holds before after then go (⟨next, t.capture⟩ :: rest) acc else go rest acc
      | .fork first second => go (⟨first, t.capture⟩ :: ⟨second, t.capture⟩ :: rest) acc
      | .groupStart next =>
        go (⟨next, { t.capture with groupStart := some (place - 1) }⟩ :: rest) acc
      | .groupEnd next =>
        go (⟨next, { t.capture with groupStop := some (place - 1) }⟩ :: rest) acc
      | .accept => { acc with accepted := some { t.capture with stop := place - 1 } }

/-- The threads behind a character, in order of preference. -/
def advance (code : Code) (c : Char) (waiting : List Thread) : List Thread :=
  waiting.foldl (fun acc t =>
    match code.getD t.at_ .accept with
    | .char ranges next =>
      if Unicode.inRanges ranges c.toNat then ⟨next, t.capture⟩ :: acc else acc
    | _ => acc) []

/-- Pass over a text.  Until a match is found, a new thread starts at every
place, behind the others. -/
def search (p : Program) (before : Option Char) (place : Nat) (visited : Array Nat)
    (threads : List Thread) (best : Option Capture) : List Char → Option Capture
  | [] => (atPlace none).accepted.or best
  | c :: rest =>
    let found := atPlace (some c)
    let best := found.accepted.or best
    let threads := advance p.code c found.waiting
    if best.isSome && threads.isEmpty then best
    else search p (some c) (place + 1) found.visited threads best rest
where
  /-- What is found here. -/
  atPlace (after : Option Char) : Closure :=
    let fresh := if best.isNone then [⟨p.start, ⟨place - 1, place - 1, none, none⟩⟩] else []
    close p.code before after place (3 * p.code.size + threads.length + 3) (threads ++ fresh)
      ⟨visited, [], none⟩

end Regex

/-- A pattern ready to be searched for. -/
structure Regex where
  program : Regex.Program

namespace Regex

/-- Read a pattern; none for a pattern that is refused. -/
def ofPattern? (pattern : String) : Option Regex :=
  (Expr.ofPattern? pattern).map fun e => ⟨.ofExpr e⟩

/-- The leftmost match in a text. -/
def find? (r : Regex) (cs : List Char) : Option Capture :=
  search r.program none 1 (Array.replicate r.program.code.size 0) [] none cs

/-- The text between two places. -/
def between (cs : List Char) (start stop : Nat) : List Char := (cs.drop start).take (stop - start)

/-- The text that the first group of the leftmost match took, or else the whole
match. -/
def capture? (r : Regex) (s : String) : Option String :=
  (r.find? s.toList).map fun m =>
    String.ofList (match m.groupStart, m.groupStop with
      | some a, some b => between s.toList a b
      | _, _ => between s.toList m.start m.stop)

end Regex

end ApiPlaybook
