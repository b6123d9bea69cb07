import BattleItems.Catalog.Issues
import BattleItems.Report.Encode
import BattleItems.Simulation

/-!
# BattleItems.Report.Summary

Reports of a simulation and of a catalog's check: as lines for people, and the former as JSON too.
-/

namespace BattleItems.Report

/-- The sign in front of what came out well or badly. -/
def marker (good : Bool) : String := if good then "✓" else "✗"

/-- Lines as a text; every line is ended. -/
def ofLines (lines : List String) : String := String.join (lines.map (· ++ "\n"))

/-! ### Simulations -/

/-- What a simulation was asked for. -/
structure Heading where
  item : String
  trigger : Trigger
  seed : UInt64

def Heading.lines (heading : Heading) : List String :=
  ["Item: " ++ heading.item, "Trigger: " ++ label heading.trigger,
    "Seed: " ++ toString heading.seed, ""]

def actionLine (report : ActionReport) : String :=
  "      - " ++ label report.kind ++ " [" ++ label report.target ++ "]: " ++ report.message

def effectLines (report : EffectReport) : List String :=
  let consumed := if report.consumedItem then " (item consumed)" else ""
  ("  " ++ marker report.success ++ " " ++ report.effect ++ ": " ++ report.message ++ consumed) ::
    report.actions.map actionLine ++ report.errors.map ("      error: " ++ ·)

/-- The lines about one call; calls are counted from 1. -/
def callLines (trigger : Trigger) (number : Nat) (reports : List EffectReport) : List String :=
  let body := match reports with
    | [] => ["  (no effects bound to " ++ label trigger ++ ")"]
    | reports => reports.flatMap effectLines
  s!"=== Call {number} ===" :: body ++ [""]

/-- The lines about the calls from a number on. -/
def callsLines (trigger : Trigger) (number : Nat) : List (List EffectReport) → List String
  | [] => []
  | reports :: rest => callLines trigger number reports ++ callsLines trigger (number + 1) rest

/-- The lines about the context after the last call. -/
def contextLines (context : Context) : List String :=
  let creature := context.creature
  let steps := context.overworld.repelSteps
  ["Creature after:",
    "  Species: " ++ creature.species,
    s!"  HP: {creature.hp}/{creature.maxHp}",
    "  Status: " ++ (creature.status.map label).getD "none"] ++
    creature.stats.toList.map (fun (stat, value) => s!"  {label stat}: {value}") ++
    ["  Moves: " ++ String.intercalate ", " creature.moves] ++
    (context.battle.map fun battle =>
      s!"  Catch rate modifier: {battle.catchRateModifier}").toList ++
    (if 0 < steps then [s!"  Repel steps: {steps}"] else [])

/-- A simulation for people. -/
def summary {σ : Type} (heading : Heading) (simulation : Simulation σ) : String :=
  ofLines (heading.lines ++ callsLines heading.trigger 1 simulation.calls.toList ++
    contextLines simulation.scene.context)

/-- A simulation for machines: the reports call by call and the final context. -/
def document {σ : Type} (simulation : Simulation σ) : Json :=
  .object
    [("calls", .ofList (.ofList EffectReport.encode) simulation.calls.toList),
     ("context", simulation.scene.context.encode)]

/-! ### Catalogs -/

/-- The remarks on an effect that are worth a word. -/
def remarks (effect : Effect) : List String :=
  let restrictions := effect.restrictions
  (if effect.priority = 0 then [] else [s!"priority {effect.priority}"]) ++
    (if restrictions.oncePerBattle then ["once per battle"] else []) ++
    (restrictions.maxUses.map fun max => s!"max {max} per battle").toList ++
    (restrictions.cooldown.map fun turns => s!"cooldown {turns}").toList

/-- The line about an effect in the summary of a catalog. -/
def effectLine (effect : Effect) : String :=
  let counts :=
    s!"{effect.conditions.length} condition(s), {effect.actions.length} action(s)"
  let remarks := match remarks effect with
    | [] => ""
    | remarks => " - " ++ String.intercalate ", " remarks
  "    " ++ effect.id ++ " [" ++ label effect.trigger ++ "] " ++ counts ++ remarks

/-- The lines about an item; issues go by its id. -/
def itemLines (issues : List Issue) (item : Item) : List String :=
  let good := issues.all (·.item ≠ item.id)
  (marker good ++ " " ++ item.displayName ++ " (" ++ item.id ++ ")") :: item.effects.map effectLine

/-- The check of a catalog for people; `quiet` leaves out what is not wrong. -/
def catalogSummary (path : String) (quiet : Bool) (catalog : Catalog) : String :=
  let issues := catalog.issues
  let items := if quiet then [] else catalog.items.flatMap (itemLines issues) ++ [""]
  let findings :=
    if issues.isEmpty then ["✓ Catalog is valid"]
    else "Issues:" :: issues.map (fun issue => "  ✗ " ++ issue.message) ++ [""]
  ofLines (["Catalog: " ++ path, s!"Items: {catalog.items.length}", ""] ++ items ++ findings)

end BattleItems.Report
