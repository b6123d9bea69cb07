import BattleItems.Action.Execute
import BattleItems.Effect.Ledger

/-!
# BattleItems.Effect.Run

Running one effect, and the effects of an item on a trigger.

An effect checks its conditions, then its restrictions, and then runs its actions. Whatever
interrupts it is caught at its boundary and becomes a report of failure; what its earlier actions
changed is kept. A batch runs the effects of a trigger by falling priority and stops behind the
first failure of a *critical* effect, one whose priority is above the configured threshold.
-/

namespace BattleItems

/-- The settings of the engine. -/
structure Settings where
  /-- A failure of an effect whose priority is above this one stops the batch. -/
  criticalPriority : Int32 := 100
deriving DecidableEq, Repr

namespace Settings

def isCritical (settings : Settings) (priority : Int32) : Bool :=
  settings.criticalPriority < priority

end Settings

namespace Effect

variable {σ : Type} [DrawSource σ]

/-- The report of an effect whose actions all ran. -/
def completed (effect : Effect) (reports : List ActionReport) : EffectReport :=
  let success := reports.any (·.success)
  { effect := effect.id,
    success,
    message := summarize reports success,
    actions := reports,
    consumedItem := reports.any (·.consumedItem),
    errors := [] }

/-- Conditions, restrictions, actions. -/
def run (effect : Effect) (ledger : Ledger) : Scene.Play σ EffectReport := do
  match ← Scene.trial (Condition.checkAll effect.conditions) with
  | .failed reason => pure (.rejected effect.id reason)
  | .passed =>
    match ← Scene.read fun context => ledger.refusal? effect context.currentTurn with
    | some refusal => pure (.rejected effect.id refusal.message)
    | none => do
      let reports ← Action.executeAll effect.actions
      pure (effect.completed reports)

/-- Runs one effect. Nothing leaves it but a report. -/
def process (effect : Effect) (ledger : Ledger) (scene : Scene σ) : EffectReport × Scene σ :=
  match effect.run ledger scene with
  | .ok report after => (report, after)
  | .error cause after => (.faulted effect cause.asFault, after)

end Effect

namespace Batch

variable {σ : Type} [DrawSource σ]

/-- The effects bound to a trigger, higher priorities first; equal ones keep their order. -/
def selected (effects : List Effect) (trigger : Trigger) : List Effect :=
  (effects.filter (·.trigger = trigger)).mergeSort fun a b => b.priority ≤ a.priority

/-- Runs effects in order and stops behind the first critical failure. -/
def runAll (settings : Settings) (ledger : Ledger) :
    List Effect → Scene σ → List EffectReport × Scene σ
  | [], scene => ([], scene)
  | effect :: rest, scene =>
    let (report, after) := effect.process ledger scene
    if !report.success && settings.isCritical effect.priority then ([report], after)
    else
      let (reports, last) := runAll settings ledger rest after
      (report :: reports, last)

/-- Runs the effects bound to a trigger. -/
def process (settings : Settings) (effects : List Effect) (trigger : Trigger) (ledger : Ledger)
    (scene : Scene σ) : List EffectReport × Scene σ :=
  runAll settings ledger (selected effects trigger) scene

end Batch

end BattleItems
