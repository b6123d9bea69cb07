import BattleItems.Effect.Basic
import BattleItems.Context
import BattleItems.Report.Json

/-!
# BattleItems.Report.Encode

Reports of effects and contexts as JSON.

A record becomes an object with every field, `null` where there is nothing. A word of a vocabulary
becomes its tag, and what carries data an object whose one key is the tag.
-/

namespace BattleItems

namespace Json

/-- A word as its tag. -/
def ofTag {α : Type} [Vocabulary α] (word : α) : Json := string (tag word)

end Json

open Json

/-- An object keyed by the tags of the stats present. -/
def Stats.encode (stats : Stats) : Json :=
  object (stats.toList.map fun (stat, value) => (tag stat, ofWord value))

def Creature.encode (creature : Creature) : Json :=
  object
    [("species", string creature.species),
     ("types", ofList string creature.types),
     ("level", ofWord creature.level),
     ("ability", ofOption string creature.ability),
     ("gender", ofTag creature.gender),
     ("nature", ofOption string creature.nature),
     ("friendship", ofWord creature.friendship),
     ("hp", ofWord creature.hp),
     ("max_hp", ofWord creature.maxHp),
     ("status", ofOption ofTag creature.status),
     ("stats", creature.stats.encode),
     ("held_item", ofOption string creature.heldItem),
     ("moves", ofList string creature.moves)]

def Battle.encode (battle : Battle) : Json :=
  object
    [("kind", ofTag battle.kind),
     ("turn", ofWord battle.turn),
     ("weather", ofOption ofTag battle.weather),
     ("terrain", ofOption ofTag battle.terrain),
     ("move_type", ofOption string battle.moveType),
     ("super_effective", bool battle.superEffective),
     ("catch_rate_modifier", number battle.catchRateModifier)]

def Overworld.encode (overworld : Overworld) : Json :=
  object
    [("time_of_day", ofTag overworld.timeOfDay),
     ("location", string overworld.location),
     ("repel_steps", ofWord overworld.repelSteps)]

def Trainer.encode (trainer : Trainer) : Json :=
  object [("id", string trainer.id), ("name", string trainer.name)]

def ItemHistory.encode (history : ItemHistory) : Json :=
  object [("first_use", bool history.firstUse)]

def Context.encode (context : Context) : Json :=
  object
    [("creature", context.creature.encode),
     ("opponent", ofOption Creature.encode context.opponent),
     ("battle", ofOption Battle.encode context.battle),
     ("field", context.overworld.encode),
     ("trainer", context.trainer.encode),
     ("usage", context.history.encode)]

def Change.encode : Change → Json
  | .none => string "None"
  | .healed amount => single "Healed" (object [("amount", ofWord amount)])
  | .statusCured status => single "StatusCured" (ofTag status)
  | .statChanged stat before after =>
    single "StatChanged"
      (object [("stat", ofTag stat), ("before", ofWord before), ("after", ofWord after)])
  | .evolved before after =>
    single "Evolved" (object [("from", string before), ("to", string after)])
  | .moveLearned move isNew =>
    single "MoveLearned" (object [("move_id", string move), ("newly_learned", bool isNew)])
  | .catchRate multiplier total =>
    single "CatchRate" (object [("multiplier", number multiplier), ("total", number total)])
  | .encounterSteps steps => single "EncounterSteps" (ofWord steps)
  | .message text => single "Message" (string text)

def ActionReport.encode (report : ActionReport) : Json :=
  object
    [("success", bool report.success),
     ("kind", ofTag report.kind),
     ("target", ofTag report.target),
     ("value", report.change.encode),
     ("message", string report.message),
     ("consumed_item", bool report.consumedItem)]

def EffectReport.encode (report : EffectReport) : Json :=
  object
    [("effect_id", string report.effect),
     ("success", bool report.success),
     ("message", string report.message),
     ("effects_applied", ofList ActionReport.encode report.actions),
     ("consumed_item", bool report.consumedItem),
     ("errors", ofList string report.errors)]

end BattleItems
