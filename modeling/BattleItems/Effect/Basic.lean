import BattleItems.Action.Basic
import BattleItems.Fault

/-!
# BattleItems.Effect.Basic

Effects: what an item does on one trigger, under which conditions and how often.
-/

namespace BattleItems

/-- The limits on an effect's use within one battle. -/
structure Restrictions where
  oncePerBattle : Bool := false
  maxUses : Option UInt32 := none
  /-- The turns that must pass after a use before the next. -/
  cooldown : Option UInt32 := none
deriving DecidableEq, Repr

namespace Restrictions

def isUnrestricted (restrictions : Restrictions) : Bool :=
  !restrictions.oncePerBattle && restrictions.maxUses.isNone && restrictions.cooldown.isNone

end Restrictions

/-- One rule of an item. Of several on one trigger the higher priority runs first. -/
structure Effect where
  id : String
  name : Option String := none
  trigger : Trigger
  priority : Int32 := 0
  conditions : List Condition := []
  actions : List Action
  restrictions : Restrictions := {}
deriving DecidableEq

namespace Effect

/-- The name shown to players, or the id where there is none. -/
def displayName (effect : Effect) : String := effect.name.getD effect.id

/-- The effect behind one more condition. -/
def when (effect : Effect) (condition : Condition) : Effect :=
  { effect with conditions := effect.conditions ++ [condition] }

/-- The effect with one more action at the end. -/
def andThen (effect : Effect) (action : Action) : Effect :=
  { effect with actions := effect.actions ++ [action] }

end Effect

/-- The record of one effect. -/
structure EffectReport where
  effect : String
  /-- Whether at least one action succeeded. -/
  success : Bool
  /-- The summary for players. -/
  message : String
  /-- The records of the actions, in the order they ran. -/
  actions : List ActionReport
  consumedItem : Bool
  /-- The faults caught at the boundary of the effect. -/
  errors : List String
deriving DecidableEq

namespace EffectReport

/-- The record of an effect that ran no actions. -/
def rejected (effect : String) (message : String) : EffectReport :=
  { effect, success := false, message, actions := [], consumedItem := false, errors := [] }

/-- The record of an effect that was interrupted. -/
def faulted (effect : Effect) (fault : Fault) : EffectReport :=
  { rejected effect.id (effect.displayName ++ " failed") with errors := [fault.message] }

def hasErrors (report : EffectReport) : Bool := !report.errors.isEmpty

end EffectReport

/-- The summary where no action came out as the effect did. -/
def noEffectMessage : String := "It had no effect."

/-- The summary of an effect that came out as `success`: one action that came out the same way
speaks for itself, several are counted. -/
def summarize (reports : List ActionReport) (success : Bool) : String :=
  match reports.filter (·.success == success) with
  | [] => noEffectMessage
  | [only] => only.message
  | pool =>
    if success then s!"{pool.length} effects applied" else s!"{pool.length} actions failed"

end BattleItems
