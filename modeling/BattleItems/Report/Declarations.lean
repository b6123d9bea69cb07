import BattleItems.Catalog.Issues
import BattleItems.Effect.Run
import BattleItems.Report.Encode

/-!
# BattleItems.Report.Declarations

What catalogs declare as JSON, with their issues, the records of uses and the settings.

The form is that of reports: every field of a record, and the tag of a kind as the one key of an
object that holds its data.
-/

namespace BattleItems

open Json

/-- An array of texts. -/
def Json.strings (texts : List String) : Json := ofList string texts

def Json.ofSignedWord (n : Int32) : Json := integer n.toInt

/-! ### Conditions -/

def Comparison.encode : Comparison → Json
  | .equals value => single "Equals" (number value)
  | .notEquals value => single "NotEquals" (number value)
  | .greater value => single "Greater" (number value)
  | .less value => single "Less" (number value)
  | .greaterEqual value => single "GreaterEqual" (number value)
  | .lessEqual value => single "LessEqual" (number value)
  | .range lower upper =>
    single "Range" (object [("min", ofOption number lower), ("max", ofOption number upper)])

def ConditionKind.encode : ConditionKind → Json
  | .species accepted => single "Species" (strings accepted)
  | .creatureType accepted => single "CreatureType" (strings accepted)
  | .level comparison => single "Level" comparison.encode
  | .ability accepted => single "Ability" (strings accepted)
  | .gender accepted => single "Gender" (ofList ofTag accepted)
  | .nature accepted => single "Nature" (strings accepted)
  | .friendship comparison => single "Friendship" comparison.encode
  | .stat name comparison =>
    single "Stat" (object [("stat", ofTag name), ("comparison", comparison.encode)])
  | .hpPercentage comparison => single "HpPercentage" comparison.encode
  | .hpAbsolute comparison => single "HpAbsolute" comparison.encode
  | .hasStatus wanted => single "HasStatus" (ofOption ofTag wanted)
  | .noStatus => string "NoStatus"
  | .battleType accepted => single "BattleType" (ofList ofTag accepted)
  | .moveType accepted => single "MoveType" (strings accepted)
  | .superEffective expected => single "SuperEffective" (bool expected)
  | .weather accepted => single "Weather" (ofList ofTag accepted)
  | .terrain accepted => single "Terrain" (ofList ofTag accepted)
  | .timeOfDay accepted => single "TimeOfDay" (ofList ofTag accepted)
  | .location accepted => single "Location" (strings accepted)
  | .randomChance probability => single "RandomChance" (number probability)
  | .firstUse expected => single "FirstUse" (bool expected)
  | .heldItem accepted => single "HeldItem" (strings accepted)
  | .unrecognized kind => single "Unrecognized" (string kind)

def Condition.encode (condition : Condition) : Json :=
  object
    [("kind", condition.kind.encode),
     ("probability", ofOption number condition.probability),
     ("negate", bool condition.negate)]

/-! ### Actions -/

def EvolutionPath.encode (path : EvolutionPath) : Json :=
  object [("from", string path.before), ("to", string path.after)]

def Evolution.encode (evolution : Evolution) : Json :=
  object
    [("into", string evolution.into), ("mapping", ofList EvolutionPath.encode evolution.paths)]

def Lesson.encode (lesson : Lesson) : Json :=
  object
    [("move_id", string lesson.move),
     ("compatible_species", ofOption strings lesson.learners),
     ("consumed_on_use", bool lesson.consumesItem)]

def ActionKind.encode : ActionKind → Json
  | .healFixed amount => single "HealFixed" (ofWord amount)
  | .healPercentage percent => single "HealPercentage" (number percent)
  | .cureStatus wanted => single "CureStatus" (ofOption ofTag wanted)
  | .boostStat stat stages =>
    single "BoostStat" (object [("stat", ofTag stat), ("stages", ofSignedWord stages)])
  | .evolve evolution => single "Evolve" evolution.encode
  | .teachMove lesson => single "TeachMove" lesson.encode
  | .modifyCatchRate multiplier => single "ModifyCatchRate" (number multiplier)
  | .consumeItem => string "ConsumeItem"
  | .showMessage text => single "ShowMessage" (string text)
  | .preventWildEncounters steps => single "PreventWildEncounters" (ofWord steps)
  | .unrecognized kind => single "Unrecognized" (string kind)

def Action.encode (action : Action) : Json :=
  object
    [("kind", action.kind.encode),
     ("target", ofTag action.target),
     ("conditions", ofList Condition.encode action.conditions),
     ("chance", ofOption number action.chance),
     ("success_message", ofOption string action.successMessage),
     ("failure_message", ofOption string action.failureMessage)]

/-! ### Effects and catalogs -/

def Restrictions.encode (restrictions : Restrictions) : Json :=
  object
    [("once_per_battle", bool restrictions.oncePerBattle),
     ("max_uses_per_battle", ofOption ofWord restrictions.maxUses),
     ("cooldown_turns", ofOption ofWord restrictions.cooldown)]

def Effect.encode (effect : Effect) : Json :=
  object
    [("id", string effect.id),
     ("name", ofOption string effect.name),
     ("trigger", ofTag effect.trigger),
     ("priority", ofSignedWord effect.priority),
     ("conditions", ofList Condition.encode effect.conditions),
     ("actions", ofList Action.encode effect.actions),
     ("restrictions", effect.restrictions.encode)]

def Item.encode (item : Item) : Json :=
  object
    [("item", string item.id),
     ("name", ofOption string item.name),
     ("effects", ofList Effect.encode item.effects)]

def Catalog.encode (catalog : Catalog) : Json :=
  object [("items", ofList Item.encode catalog.items)]

def Issue.encode (issue : Issue) : Json :=
  object
    [("item", string issue.item),
     ("effect", ofOption string issue.effect),
     ("problem", string issue.problem.message),
     ("display", string issue.message)]

/-! ### Uses and settings -/

def UsageRecord.encode (record : UsageRecord) : Json :=
  object [("uses", ofWord record.uses), ("last_used_turn", ofOption ofWord record.lastTurn)]

/-- An object keyed by effect ids. -/
def Ledger.encode (ledger : Ledger) : Json :=
  object (ledger.entries.map fun (id, record) => (id, record.encode))

def Lifecycle.encode : Lifecycle → Json
  | .unused => string "Unused"
  | .used uses => single "Used" (ofWord uses)
  | .exhausted => string "Exhausted"

def Refusal.encode : Refusal → Json
  | .alreadyUsed => string "AlreadyUsed"
  | .limitReached max => single "LimitReached" (ofWord max)
  | .cooldown remaining => single "Cooldown" (ofWord remaining)

def Settings.encode (settings : Settings) : Json :=
  object [("critical_priority", ofSignedWord settings.criticalPriority)]

end BattleItems
