/-
  ApiPlaybook.Regex.Program
  ─────────────────────────
  **PROGRAMS FOR EXPRESSIONS.**

  An expression becomes a program for a machine with many threads.  Instructions
  are numbered; an expression is assembled with the number of the
  instruction that follows it, so that only loops need a number before their
  instruction is known.  The order of the two ways of a fork is the order of
  preference.
-/
import ApiPlaybook.Regex.Expr

namespace ApiPlaybook.Regex

/-- An instruction. -/
inductive Instr where
  /-- Pass over a character of the set. -/
  | char (ranges : Array (Nat × Nat)) (next : Nat)
  | look (l : Look) (next : Nat)
  /-- Go on at both places; the first one is preferred. -/
  | fork (first second : Nat)
  /-- Note where the first group starts or ends. -/
  | groupStart (next : Nat)
  | groupEnd (next : Nat)
  | accept
deriving Inhabited

/-- The instructions so far. -/
abbrev Code := Array Instr

/-- Assembles instructions: from the code so far and the number of what follows to the
code with the expression and the number it starts at. -/
abbrev Assembler := Code → Nat → Code × Nat

/-- Append an instruction. -/
def emit (i : Instr) (code : Code) : Code × Nat :=
  let number := code.size
  (code.push i, number)

/-- Two ways, in the order that greed asks for. -/
def choose (greedy : Bool) (inside next : Nat) : Instr :=
  if greedy then .fork inside next else .fork next inside

/-- Several copies, one after the other. -/
def copies (body : Assembler) : Nat → Assembler
  | 0, code, next => (code, next)
  | n + 1, code, next =>
    let (code, next) := body code next
    copies body n code next

/-- Up to that many copies, nested: each one is tried only behind the one before
it. -/
def optionalCopies (body : Assembler) (greedy : Bool) (exit : Nat) : Nat → Assembler
  | 0, code, next => (code, next)
  | n + 1, code, next =>
    let (code, start) := body code next
    let (code, way) := emit (choose greedy start exit) code
    optionalCopies body greedy exit n code way

/-- One copy or more. -/
def oneOrMore (body : Assembler) (greedy : Bool) : Assembler := fun code next =>
  let (code, way) := emit .accept code
  let (code, start) := body code way
  (code.setIfInBounds way (choose greedy start next), start)

/-- Any number of copies of what matches no empty text. -/
def zeroOrMore (body : Assembler) (greedy : Bool) : Assembler := fun code next =>
  let (code, way) := emit .accept code
  let (code, start) := body code way
  (code.setIfInBounds way (choose greedy start next), way)

/-- Put the instructions of an expression together. -/
def assemble : Expr → Assembler
  | .empty, code, next => (code, next)
  | .set s, code, next => emit (.char s.ranges.toArray next) code
  | .look l, code, next => emit (.look l next) code
  | .group index e, code, next =>
    if index = 1 then
      let (code, next) := emit (.groupEnd next) code
      let (code, next) := assemble e code next
      emit (.groupStart next) code
    else assemble e code next
  | .seq e f, code, next =>
    let (code, next) := assemble f code next
    assemble e code next
  | .alt e f, code, next =>
    let (code, first) := assemble e code next
    let (code, second) := assemble f code next
    emit (.fork first second) code
  | .rep e least most greedy, code, next =>
    let body := assemble e
    match most with
    | some most =>
      let (code, next) := optionalCopies body greedy next (most - least) code next
      copies body least code next
    | none =>
      if least = 0 then
        if e.matchesEmpty then
          let (code, start) := oneOrMore body greedy code next
          emit (choose greedy start next) code
        else zeroOrMore body greedy code next
      else
        let (code, next) := oneOrMore body greedy code next
        copies body (least - 1) code next

/-- A program: its instructions and where it starts. -/
structure Program where
  code : Code
  start : Nat

/-- The program of an expression. -/
def Program.ofExpr (e : Expr) : Program :=
  let (code, accept) := emit .accept #[]
  let (code, start) := assemble e code accept
  ⟨code, start⟩

end ApiPlaybook.Regex
