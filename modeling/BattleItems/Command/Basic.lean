import BattleItems.Command.Arguments
import BattleItems.Digits
import BattleItems.Vocabulary
import BattleItems.Words

/-!
# BattleItems.Command.Basic

The commands of the program, and the command lines that ask for them.
-/

namespace BattleItems

inductive ReportFormat where
  | summary
  | json
deriving DecidableEq, Repr

/-- A request to use one item turn after turn. -/
structure SimulationRequest where
  catalog : String
  item : String
  context : String
  trigger : Trigger := .onUse
  seed : UInt64 := 0
  /-- The file with the settings; without one the defaults are in force. -/
  settings : Option String := none
  times : UInt32 := 1
  format : ReportFormat := .summary
deriving DecidableEq, Repr

inductive Command where
  /-- Checks a catalog and says what its items declare. -/
  | validateCatalog (path : String) (quiet : Bool)
  | simulate (request : SimulationRequest)
deriving DecidableEq, Repr

namespace Command

/-! ### Values of options -/

/-- A path; the empty text is none. -/
def path? (text : String) : Option String := if text.isEmpty then none else some text

def trigger? (text : String) : Option Trigger := Vocabulary.ofLabel? text

def format? (text : String) : Option ReportFormat :=
  if text = "summary" then some .summary else if text = "json" then some .json else none

/-- A run of digits. -/
def natural? (digits : List Char) : Option Nat :=
  if digits ≠ [] ∧ digits.all Char.isDigit then some (digitsValue digits) else none

/-- A seed of 64 bits; it may have a plus sign. -/
def seed? (text : String) : Option UInt64 := do
  let n ← natural? (match text.toList with
    | '+' :: digits => digits
    | digits => digits)
  if n < UInt64.size then some (UInt64.ofNat n) else none

/-- A number of repetitions; it may have a sign. -/
def times? (text : String) : Option UInt32 := do
  let (negative, digits) := splitSign text.toList
  let n ← natural? digits
  word32? (if negative then -n else n)

/-! ### Command lines -/

def validateFlags : List Flag := [{ name := "quiet", short := some 'q', takesValue := false }]

def validateCatalog? (arguments : Arguments) : Option Command := do
  let quiet ← arguments.value? "quiet"
  match arguments.positional with
  | [path] => do some (.validateCatalog (← path? path) quiet.isSome)
  | _ => none

def simulateFlags : List Flag :=
  [{ name := "catalog", short := some 'c', takesValue := true },
   { name := "item", short := some 'i', takesValue := true },
   { name := "context", takesValue := true },
   { name := "trigger", short := some 't', takesValue := true },
   { name := "seed", short := some 's', takesValue := true },
   { name := "config", takesValue := true },
   { name := "times", takesValue := true },
   { name := "format", short := some 'f', takesValue := true }]

def simulate? (arguments : Arguments) : Option Command := do
  let catalog ← arguments.required? "catalog" path?
  let item ← arguments.required? "item" some
  let context ← arguments.required? "context" path?
  let trigger ← arguments.valueOr? "trigger" trigger? .onUse
  let seed ← arguments.valueOr? "seed" seed? 0
  let settings ← arguments.valueOr? "config" (fun text => (path? text).map some) none
  let times ← arguments.valueOr? "times" times? 1
  let format ← arguments.valueOr? "format" format? .summary
  if arguments.positional.isEmpty then
    some (.simulate { catalog, item, context, trigger, seed, settings, times, format })
  else none

/-- The command that a command line asks for. -/
def ofArguments? : List String → Option Command
  | "validate-catalog" :: rest => do validateCatalog? (← Arguments.ofList? validateFlags rest)
  | "simulate" :: rest => do simulate? (← Arguments.ofList? simulateFlags rest)
  | _ => none

end Command

end BattleItems
