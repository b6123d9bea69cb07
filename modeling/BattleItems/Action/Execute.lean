import BattleItems.Action.Apply
import BattleItems.Action.Template
import BattleItems.Condition.Check

/-!
# BattleItems.Action.Execute

Running actions.

An action passes its conditions, then its gate of chance, and only then is its kind applied. Its
message is filled in against the context afterwards. A list of actions runs to its end whether or
not single actions fail; only a fault or a panic stops it, and what the actions before it changed
stays changed.
-/

namespace BattleItems

/-- A context and the source of its draws. -/
structure Scene (σ : Type) where
  context : Context
  source : σ

namespace Scene

/-- A computation that may change the context. -/
abbrev Play (σ α : Type) := EStateM Interruption (Scene σ) α

variable {σ α : Type}

/-- A trial that reads the context. -/
def trial (run : Context → Trial σ α) : Play σ α := fun scene =>
  match run scene.context scene.source with
  | .ok answer source => .ok answer { scene with source }
  | .error cause source => .error cause { scene with source }

/-- A change of the context. What it changed before a fault stays changed. -/
def change (run : Context → EStateM.Result Fault Context α) : Play σ α := fun scene =>
  match run scene.context with
  | .ok answer context => .ok answer { scene with context }
  | .error cause context => .error (.fault cause) { scene with context }

/-- Reads the context. -/
def read (view : Context → α) : Play σ α := fun scene => .ok (view scene.context) scene

end Scene

namespace Action

/-- The message of an action that its gate of chance stopped. -/
def chanceFailedMessage : String := "The item's effect did not activate"

variable {σ : Type} [DrawSource σ]

/-- Whether the action may run: its conditions, then its gate of chance. -/
def gate (action : Action) (context : Context) : Trial σ Verdict := do
  let verdict ← Condition.checkAll action.conditions context
  if verdict.isPassed then
    match action.chance with
    | none => pure .passed
    | some probability =>
      if probability.isProbability then do
        let passed ← BattleItems.chance probability
        pure (if passed then .passed else .failed chanceFailedMessage)
      else
        throw (.fault (.malformedAction (Fault.notAProbability "action chance" probability)))
  else pure verdict

/-- The record of an action that a gate stopped. Its own message is filled in; the reason of the
gate is given as it is. -/
def stopped (action : Action) (reason : String) (context : Context) : ActionReport :=
  .failed action.kind.tag action.target <|
    match action.failureMessage with
    | some template => action.render template context
    | none => reason

/-- The record of an action that ran. The kind's own message goes through the placeholders too. -/
def report (action : Action) (effort : Effort) (context : Context) : ActionReport :=
  let template := if effort.success then action.successMessage else action.failureMessage
  { success := effort.success,
    kind := action.kind.tag,
    target := action.target,
    change := effort.change,
    message := action.render (template.getD effort.message) context,
    consumedItem := effort.consumedItem }

/-- Runs one action. -/
def execute (action : Action) : Scene.Play σ ActionReport := do
  match ← Scene.trial action.gate with
  | .failed reason => Scene.read (action.stopped reason)
  | .passed =>
    let effort ← Scene.change (action.kind.apply action.target)
    Scene.read (action.report effort)

/-- Runs actions in order. -/
def executeAll (actions : List Action) : Scene.Play σ (List ActionReport) :=
  match actions with
  | [] => pure []
  | action :: rest => do
    let report ← action.execute
    let reports ← executeAll rest
    pure (report :: reports)

end Action

end BattleItems
