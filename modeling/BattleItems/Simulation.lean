import BattleItems.Effect.Run

/-!
# BattleItems.Simulation

Using one item turn after turn.

Each call runs the item's effects on a trigger, records the uses on the turn of the call, and ends
the turn. The first call sees the turn of the context; outside of battle there are no turns to
count and every call is made on turn 0.

The count of the turns is not guarded: a turn that ends on the largest word panics, and with it the
whole simulation.
-/

namespace BattleItems

/-- The panic of a sum that does not fit its word. -/
def Panic.sumOverflow : Panic := ⟨some "attempt to add with overflow"⟩

/-- The battle on its next turn. There is none behind the largest word. -/
def Battle.nextTurn (battle : Battle) : Except Panic Battle :=
  if battle.turn.toNat + 1 < UInt32.size then .ok { battle with turn := battle.turn + 1 }
  else .error .sumOverflow

/-- The context on the next turn of its battle, if it is in one. -/
def Context.nextTurn (context : Context) : Except Panic Context :=
  match context.battle with
  | none => .ok context
  | some battle => do pure { context with battle := some (← battle.nextTurn) }

/-- What is the same in all calls. -/
structure Simulation.Setup where
  effects : List Effect
  trigger : Trigger
  settings : Settings

/-- The state between two calls, and the reports of the calls so far. -/
structure Simulation (σ : Type) where
  scene : Scene σ
  ledger : Ledger := {}
  calls : Array (List EffectReport) := #[]

namespace Simulation

variable {σ : Type} [DrawSource σ]

/-- One more call. -/
def call (setup : Setup) (simulation : Simulation σ) : Except Panic (Simulation σ) := do
  let (reports, after) :=
    Batch.process setup.settings setup.effects setup.trigger simulation.ledger simulation.scene
  let ledger := simulation.ledger.recordReports reports after.context.currentTurn
  let context ← after.context.nextTurn
  pure { scene := { after with context }, ledger, calls := simulation.calls.push reports }

/-- A number of calls, unless one of them panics. -/
def callTimes (setup : Setup) : Nat → Simulation σ → Except Panic (Simulation σ)
  | 0, simulation => .ok simulation
  | times + 1, simulation => do callTimes setup times (← simulation.call setup)

/-- The calls of a simulation; at least one is made. -/
def run (setup : Setup) (times : UInt32) (scene : Scene σ) : Except Panic (Simulation σ) :=
  callTimes setup (max times.toNat 1) { scene }

end Simulation

end BattleItems
