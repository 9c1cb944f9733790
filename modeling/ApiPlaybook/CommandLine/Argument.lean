/-
  ApiPlaybook.CommandLine.Argument
  ────────────────────────────────
  **ARGUMENTS.**

  The arguments of a command are flags, options with a value and positional
  arguments, in any order.  Which options there are is declared.  A long option
  is written `--name value` or `--name=value`; flags may have a short form, and
  several short forms may stand behind one dash.  A value starts with a dash
  only when it is written behind `=` or is a dash alone.  Behind `--` there are
  only positional arguments.
-/

namespace ApiPlaybook

/-! ## §1. Declared options. -/

/-- How an option is used. -/
inductive OptionUse where
  /-- Given or not. -/
  | flag
  /-- With a value, at most once. -/
  | once
  /-- With a value, any number of times. -/
  | repeated
deriving DecidableEq, Inhabited

/-- An option that a command knows. -/
structure OptionDecl where
  name : String
  use : OptionUse
  short : Option Char := none
deriving DecidableEq, Inhabited

/-- Arguments that were understood. -/
inductive Argument where
  | flag (name : String)
  | option (name value : String)
  | positional (text : String)
deriving DecidableEq, Inhabited

/-! ## §2. Reading. -/

/-- The shape of an argument, which does not depend on what is declared. -/
inductive ArgumentShape where
  | endOfOptions
  | long (name : String) (value : Option String)
  | short (letters : List Char)
  | plain
deriving DecidableEq, Inhabited

/-- The shape of `--text`. -/
def ArgumentShape.ofLong (text : List Char) : ArgumentShape :=
  .long (String.ofList (text.takeWhile (· != '=')))
    (((text.dropWhile (· != '=')).tail?).map String.ofList)

def ArgumentShape.ofText (s : String) : ArgumentShape :=
  match s.toList with
  | ['-', '-'] => .endOfOptions
  | '-' :: '-' :: rest => .ofLong rest
  | '-' :: c :: rest => .short (c :: rest)
  | _ => .plain

/-- Whether an argument may be the value of the option before it. -/
def canBeValue (s : String) : Bool := ArgumentShape.ofText s == .plain

/-- The flag of a short form. -/
def shortFlag? (decls : List OptionDecl) (c : Char) : Option Argument :=
  (decls.find? fun d => d.short == some c).map fun d => .flag d.name

/-- Read arguments.  Fails on an option that is not declared, a value for a
flag and a missing value. -/
def readArguments (decls : List OptionDecl) : List String → Option (List Argument)
  | [] => some []
  | s :: rest =>
    match ArgumentShape.ofText s with
    | .endOfOptions => some (rest.map .positional)
    | .plain => (readArguments decls rest).map (.positional s :: ·)
    | .short letters => do
      let flags ← letters.mapM (shortFlag? decls)
      return flags ++ (← readArguments decls rest)
    | .long name value =>
      match decls.find? (·.name == name) with
      | none => none
      | some d =>
        match d.use == .flag, value, rest with
        | true, none, rest => (readArguments decls rest).map (.flag name :: ·)
        | true, some _, _ => none
        | false, some v, rest => (readArguments decls rest).map (.option name v :: ·)
        | false, none, v :: rest =>
          if canBeValue v then (readArguments decls rest).map (.option name v :: ·) else none
        | false, none, [] => none

/-! ## §3. Looking at arguments. -/

namespace Argument

/-- The name of an option or flag. -/
def name? : Argument → Option String
  | .flag name => some name
  | .option name _ => some name
  | .positional _ => none

/-- The text of a positional argument. -/
def positional? : Argument → Option String
  | .positional text => some text
  | _ => none

/-- The value of an option of that name. -/
def valueOf? (name : String) : Argument → Option String
  | .option n value => if n = name then some value else none
  | _ => none

end Argument

/-- The values of an option, in order. -/
def optionValues (args : List Argument) (name : String) : List String :=
  args.filterMap (Argument.valueOf? name)

/-- The value of an option that is given once. -/
def optionValue? (args : List Argument) (name : String) : Option String :=
  (optionValues args name).head?

/-- Whether a flag or option is given. -/
def isGiven (args : List Argument) (name : String) : Bool := args.any (·.name? == some name)

/-- Only options that may be repeated are. -/
def repeatsAllowed (decls : List OptionDecl) (args : List Argument) : Bool :=
  decls.all fun d => d.use == .repeated || (args.countP fun a => a.name? == some d.name) ≤ 1

/-- The single positional argument, which is not empty. -/
def onlyPositional? (args : List Argument) : Option String :=
  match args.filterMap Argument.positional? with
  | [text] => if text.isEmpty then none else some text
  | _ => none

/-- Read the arguments of a command with these options. -/
def understand (decls : List OptionDecl) (args : List String) : Option (List Argument) :=
  (readArguments decls args).filter (repeatsAllowed decls)

end ApiPlaybook
