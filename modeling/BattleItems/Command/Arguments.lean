/-!
# BattleItems.Command.Arguments

Command lines as options with their values and positional arguments.

An option that takes a value is written `--name value`, `--name=value`, `-n value`, `-nvalue` or
`-n=value`; options without one can share a dash. What starts with a dash is never the value of the
option in front of it, a lone dash excepted. Behind `--` every argument is positional.
-/

namespace BattleItems

/-- An option that a command knows. -/
structure Flag where
  name : String
  short : Option Char := none
  takesValue : Bool
deriving DecidableEq, Repr

/-- The options that were given, in order, and the positional arguments. -/
structure Arguments where
  options : List (String × String) := []
  positional : List String := []
deriving DecidableEq, Repr

namespace Arguments

def addOption (arguments : Arguments) (name value : String) : Arguments :=
  { arguments with options := (name, value) :: arguments.options }

def addPositional (arguments : Arguments) (text : String) : Arguments :=
  { arguments with positional := text :: arguments.positional }

/-- Whether an argument is an option, or the mark behind which there are none. -/
def isOption (argument : String) : Bool :=
  match argument.toList with
  | '-' :: _ :: _ => true
  | _ => false

/-- What one argument says: options that are complete, and the name of one whose value is the next
argument. -/
structure Piece where
  options : List (String × String) := []
  awaiting : Option String := none

/-- Reads the options behind a single dash. -/
def shortOptions? (flags : List Flag) : List Char → Option Piece
  | [] => some {}
  | c :: rest => do
    let flag ← flags.find? (·.short = some c)
    if flag.takesValue then
      match rest with
      | [] => some { awaiting := some flag.name }
      | '=' :: value | value => some { options := [(flag.name, String.ofList value)] }
    else do
      let piece ← shortOptions? flags rest
      some { piece with options := (flag.name, "") :: piece.options }

/-- Reads the option behind two dashes. -/
def longOption? (flags : List Flag) (text : List Char) : Option Piece := do
  let name := text.takeWhile (· ≠ '=')
  let flag ← flags.find? (·.name.toList = name)
  match text.drop name.length, flag.takesValue with
  | [], true => some { awaiting := some flag.name }
  | [], false => some { options := [(flag.name, "")] }
  | _ :: value, true => some { options := [(flag.name, String.ofList value)] }
  | _ :: _, false => none

/-- Reads an argument that is an option. -/
def piece? (flags : List Flag) (argument : String) : Option Piece :=
  match argument.toList with
  | '-' :: '-' :: text => longOption? flags text
  | '-' :: text => shortOptions? flags text
  | _ => none

/-- Reads arguments behind an option that waits for its value, or behind none. -/
def read? (flags : List Flag) : (awaiting : Option String) → List String → Option Arguments
  | none, [] => some {}
  | some _, [] => none
  | some name, argument :: rest =>
    if isOption argument then none
    else (read? flags none rest).map (·.addOption name argument)
  | none, argument :: rest =>
    if argument = "--" then some { positional := rest }
    else if isOption argument then do
      let piece ← piece? flags argument
      let arguments ← read? flags piece.awaiting rest
      some { arguments with options := piece.options ++ arguments.options }
    else (read? flags none rest).map (·.addPositional argument)

/-- Reads a command line. -/
def ofList? (flags : List Flag) (arguments : List String) : Option Arguments :=
  read? flags none arguments

/-- The value of an option that may be given once, and is given or not. -/
def value? (arguments : Arguments) (name : String) : Option (Option String) :=
  match arguments.options.filter (·.1 = name) with
  | [] => some none
  | [(_, value)] => some (some value)
  | _ => none

/-- The value of an option with a default, if it reads. -/
def valueOr? {α : Type} (arguments : Arguments) (name : String) (read : String → Option α)
    (missing : α) : Option α := do
  match ← arguments.value? name with
  | none => some missing
  | some text => read text

/-- The value of an option that must be given, if it reads. -/
def required? {α : Type} (arguments : Arguments) (name : String) (read : String → Option α) :
    Option α := do
  read (← (← arguments.value? name))

end Arguments

end BattleItems
