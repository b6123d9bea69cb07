import BattleItems.Context
import BattleItems.Ron.Reader

/-!
# BattleItems.Content.Context

Contexts as documents: every field may be left out.
-/

namespace BattleItems.Content

open Ron Ron.Reader

def creature : Reader Creature :=
  record "CreatureState" fun fields => do
    let species ← fields.get? "species" text ""
    let types ← fields.get? "types" (list text) []
    let level ← fields.get? "level" word32 0
    let ability ← fields.get? "ability" (optional text) none
    let gender ← fields.get? "gender" vocabulary .genderless
    let nature ← fields.get? "nature" (optional text) none
    let friendship ← fields.get? "friendship" word32 0
    let hp ← fields.get? "hp" word32 0
    let maxHp ← fields.get? "max_hp" word32 0
    let status ← fields.get? "status" (optional vocabulary) none
    let stats ← fields.get? "stats" (Reader.map vocabulary word32) []
    let heldItem ← fields.get? "held_item" (optional text) none
    let moves ← fields.get? "moves" (list text) []
    some
      { species, types, level, ability, gender, nature, friendship, hp, maxHp, status,
        stats := .ofList stats, heldItem, moves }

def battle : Reader Battle :=
  record "BattleState" fun fields => do
    let kind ← fields.get? "kind" vocabulary .wild
    let turn ← fields.get? "turn" word32 1
    let weather ← fields.get? "weather" (optional vocabulary) none
    let terrain ← fields.get? "terrain" (optional vocabulary) none
    let moveType ← fields.get? "move_type" (optional text) none
    let superEffective ← fields.get? "super_effective" bool false
    let catchRateModifier ← fields.get? "catch_rate_modifier" number 1
    some { kind, turn, weather, terrain, moveType, superEffective, catchRateModifier }

def overworld : Reader Overworld :=
  record "FieldState" fun fields => do
    let timeOfDay ← fields.get? "time_of_day" vocabulary .day
    let location ← fields.get? "location" text ""
    let repelSteps ← fields.get? "repel_steps" word32 0
    some { timeOfDay, location, repelSteps }

def trainer : Reader Trainer :=
  record "TrainerState" fun fields => do
    let id ← fields.get? "id" text ""
    let name ← fields.get? "name" text ""
    some { id, name }

def itemHistory : Reader ItemHistory :=
  record "ItemUsage" fun fields => do
    let firstUse ← fields.get? "first_use" bool true
    some { firstUse }

def context : Reader Context :=
  record "EffectContext" fun fields => do
    let creature ← fields.get? "creature" creature {}
    let opponent ← fields.get? "opponent" (optional Content.creature) none
    let battle ← fields.get? "battle" (optional battle) none
    let overworld ← fields.get? "field" overworld {}
    let trainer ← fields.get? "trainer" trainer {}
    let history ← fields.get? "usage" itemHistory {}
    some { creature, opponent, battle, overworld, trainer, history }

end BattleItems.Content
