import BattleItems.Condition.Basic

/-!
# BattleItems.Action.Basic

Actions as a catalog declares them, and the record of what an action did.
-/

namespace BattleItems

/-- A creature of one species may become one of another. -/
structure EvolutionPath where
  before : String
  after : String
deriving DecidableEq, Repr

/-- An evolution into a species, along the paths that allow it. -/
structure Evolution where
  into : String
  paths : List EvolutionPath := []
deriving DecidableEq, Repr

/-- A move that an item teaches. -/
structure Lesson where
  move : String
  /-- The species that can learn it; any if none are given. -/
  learners : Option (List String) := none
  /-- Whether a use that succeeds spends the item. -/
  consumesItem : Bool := false
deriving DecidableEq, Repr

/-- The change that an action makes. -/
inductive ActionKind where
  /-- Restores this many HP, up to the maximum. -/
  | healFixed (amount : UInt32)
  /-- Restores a percentage of the maximum HP, rounded down. -/
  | healPercentage (percent : Binary64)
  /-- Clears the status, or only that one if one is given. -/
  | cureStatus (wanted : Option Status)
  /-- Scales a stat by the stage curve. -/
  | boostStat (stat : StatKind) (stages : Int32)
  | evolve (evolution : Evolution)
  | teachMove (lesson : Lesson)
  /-- Multiplies the battle's catch rate modifier. -/
  | modifyCatchRate (multiplier : Binary64)
  /-- Spends the item and changes nothing else. -/
  | consumeItem
  | showMessage (text : String)
  /-- Keeps wild creatures away for this many steps. -/
  | preventWildEncounters (steps : UInt32)
  /-- A kind from a newer catalog; it never succeeds. -/
  | unrecognized (kind : String)
deriving DecidableEq

/-- The kind of an action without its parameters. -/
inductive ActionTag where
  | healFixed
  | healPercentage
  | cureStatus
  | boostStat
  | evolve
  | teachMove
  | modifyCatchRate
  | consumeItem
  | showMessage
  | preventWildEncounters
  | unrecognized
deriving DecidableEq, Repr

instance : Vocabulary ActionTag where
  all := [.healFixed, .healPercentage, .cureStatus, .boostStat, .evolve, .teachMove,
    .modifyCatchRate, .consumeItem, .showMessage, .preventWildEncounters, .unrecognized]
  tag
    | .healFixed => "HealFixed"
    | .healPercentage => "HealPercentage"
    | .cureStatus => "CureStatus"
    | .boostStat => "BoostStat"
    | .evolve => "Evolve"
    | .teachMove => "TeachMove"
    | .modifyCatchRate => "ModifyCatchRate"
    | .consumeItem => "ConsumeItem"
    | .showMessage => "ShowMessage"
    | .preventWildEncounters => "PreventWildEncounters"
    | .unrecognized => "Unrecognized"
  label
    | .healFixed => "heal_fixed"
    | .healPercentage => "heal_percentage"
    | .cureStatus => "cure_status"
    | .boostStat => "boost_stat"
    | .evolve => "evolve"
    | .teachMove => "teach_move"
    | .modifyCatchRate => "modify_catch_rate"
    | .consumeItem => "consume_item"
    | .showMessage => "show_message"
    | .preventWildEncounters => "prevent_wild_encounters"
    | .unrecognized => "unrecognized"

namespace ActionKind

def tag : ActionKind → ActionTag
  | healFixed _ => .healFixed
  | healPercentage _ => .healPercentage
  | cureStatus _ => .cureStatus
  | boostStat .. => .boostStat
  | evolve _ => .evolve
  | teachMove _ => .teachMove
  | modifyCatchRate _ => .modifyCatchRate
  | consumeItem => .consumeItem
  | showMessage _ => .showMessage
  | preventWildEncounters _ => .preventWildEncounters
  | unrecognized _ => .unrecognized

end ActionKind

/-- One change, the gates before it and the messages about it. -/
structure Action where
  kind : ActionKind
  target : Target := .user
  /-- Checked once the conditions of the whole effect have passed. -/
  conditions : List Condition := []
  /-- A gate of chance behind the conditions. -/
  chance : Option Binary64 := none
  /-- Replaces the message on success; may hold placeholders. -/
  successMessage : Option String := none
  /-- Replaces the message on failure; may hold placeholders. -/
  failureMessage : Option String := none
deriving DecidableEq

namespace Action

/-- The action behind one more condition. -/
def when (action : Action) (condition : Condition) : Action :=
  { action with conditions := action.conditions ++ [condition] }

end Action

/-- What an action changed, exactly. -/
inductive Change where
  | none
  | healed (amount : UInt32)
  | statusCured (status : Status)
  | statChanged (stat : StatKind) (before after : UInt32)
  | evolved (before after : String)
  | moveLearned (move : String) (isNew : Bool)
  | catchRate (multiplier total : Binary64)
  | encounterSteps (steps : UInt32)
  /-- A text as it was declared, before its placeholders are filled in. -/
  | message (text : String)
deriving DecidableEq

/-- The record of one action. -/
structure ActionReport where
  success : Bool
  kind : ActionTag
  target : Target
  change : Change
  message : String
  /-- Whether the action spends the item. -/
  consumedItem : Bool
deriving DecidableEq

namespace ActionReport

/-- The record of an action that failed and changed nothing. -/
def failed (kind : ActionTag) (target : Target) (message : String) : ActionReport :=
  { success := false, kind, target, change := .none, message, consumedItem := false }

end ActionReport

end BattleItems
