import BattleItems.Command.Basic
import BattleItems.Content.Load
import BattleItems.Random.Pcg
import BattleItems.Report.Summary

/-!
# BattleItems.Command.Run

Running commands.

A command reads files through a `FileReader` and gives an `Outcome`; it prints nothing itself. What
a failed command has to show before its failure is part of the outcome. A panic that nothing catches
is an outcome as well, with nothing to show.
-/

namespace BattleItems

/-- What came of a command line. -/
inductive Outcome where
  /-- The command line asks for no command. -/
  | refused
  | done (output : String)
  /-- The messages of a failure, each followed by its cause, behind what was shown before. -/
  | failed (output : String) (chain : List String)
  /-- The program broke down before it could show anything. -/
  | panicked (cause : Panic)
deriving DecidableEq, Repr

namespace Outcome

def exitCode : Outcome → Nat
  | done _ => 0
  | failed .. => 1
  | refused => 2
  | panicked _ => 101

def output : Outcome → String
  | refused | panicked _ => ""
  | done output | failed output _ => output

/-- A text with every line moved to the right. -/
def indented (text : String) : String :=
  let move := "    ".toList
  String.ofList (move ++ text.toList.flatMap fun c => if c = '\n' then c :: move else [c])

/-- A failure as it is told: the message, and the causes below it. -/
def errorText : List String → String
  | [] => "Error: "
  | [message] => "Error: " ++ message
  | message :: causes =>
    "Error: " ++ message ++ "\n\nCaused by:" ++
      String.join (causes.map fun cause => "\n" ++ indented cause)

/-- The text of the failure, if there is one. -/
def error? : Outcome → Option String
  | failed _ chain => some (errorText chain)
  | _ => none

end Outcome

variable {m : Type → Type} [Monad m]

namespace SimulationRequest

/-- Loads what the request names: catalog, context, settings. -/
def load (request : SimulationRequest) (read : FileReader m) :
    ExceptT LoadFailure m (Catalog × Context × Settings) := do
  let catalog ← Catalog.load read request.catalog
  let context ← Context.load read request.context
  match request.settings with
  | some path => do pure (catalog, context, ← Settings.load read path)
  | none => pure (catalog, context, {})

/-- The calls that a request asks for, from a fresh ledger and a generator with its seed. -/
def simulation (request : SimulationRequest) (effects : List Effect) (context : Context)
    (settings : Settings) : Except Panic (Simulation Pcg) :=
  Simulation.run { effects, trigger := request.trigger, settings } request.times
    { context, source := Pcg.seeded request.seed }

/-- A simulation in the format that was asked for. -/
def report (request : SimulationRequest) (simulation : Simulation Pcg) : String :=
  match request.format with
  | .summary =>
    Report.summary { item := request.item, trigger := request.trigger, seed := request.seed }
      simulation
  | .json => Report.ofLines [(Report.document simulation).pretty]

/-- Simulates with what was loaded. -/
def outcome (request : SimulationRequest) (catalog : Catalog) (context : Context)
    (settings : Settings) : Outcome :=
  match catalog.find? request.item with
  | some item =>
    match request.simulation item.effects context settings with
    | .ok simulation => .done (request.report simulation)
    | .error cause => .panicked cause
  | none =>
    .failed "" ["Item \x60" ++ request.item ++ "\x60 not found in " ++ request.catalog]

end SimulationRequest

namespace Command

/-- The check of a catalog; issues make it fail once everything is shown. -/
def validationOutcome (path : String) (quiet : Bool) (catalog : Catalog) : Outcome :=
  let output := Report.catalogSummary path quiet catalog
  match catalog.issues.length with
  | 0 => .done output
  | count => .failed output [s!"{count} validation issue(s) found"]

/-- Runs a command. -/
def run (read : FileReader m) : Command → m Outcome
  | validateCatalog path quiet => do
    match ← (Catalog.loadUnchecked read path).run with
    | .ok catalog => pure (validationOutcome path quiet catalog)
    | .error cause => pure (.failed "" cause.chain)
  | simulate request => do
    match ← (request.load read).run with
    | .ok (catalog, context, settings) => pure (request.outcome catalog context settings)
    | .error cause => pure (.failed "" cause.chain)

/-- Runs a command line. -/
def runArguments (read : FileReader m) (arguments : List String) : m Outcome :=
  match ofArguments? arguments with
  | some command => command.run read
  | none => pure .refused

end Command

end BattleItems
