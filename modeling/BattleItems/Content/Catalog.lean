import BattleItems.Catalog.Basic
import BattleItems.Ron.Reader

/-!
# BattleItems.Content.Catalog

Catalogs as documents.

The names of records, fields and variants are those of the file format. Every field that has a
default may be left out.
-/

namespace BattleItems.Content

open Ron Ron.Reader

def comparison : Reader Comparison :=
  oneOf
    [.holding "Equals" .equals number,
     .holding "NotEquals" .notEquals number,
     .holding "Greater" .greater number,
     .holding "Less" .less number,
     .holding "GreaterEqual" .greaterEqual number,
     .holding "LessEqual" .lessEqual number,
     .record "Range" fun fields => do
       let lower ← fields.get? "min" (optional number) none
       let upper ← fields.get? "max" (optional number) none
       some (.range lower upper)]

def conditionKind : Reader ConditionKind :=
  oneOf
    [.holding "Species" .species (list text),
     .holding "CreatureType" .creatureType (list text),
     .holding "Level" .level comparison,
     .holding "Ability" .ability (list text),
     .holding "Gender" .gender (list vocabulary),
     .holding "Nature" .nature (list text),
     .holding "Friendship" .friendship comparison,
     .holding "HpPercentage" .hpPercentage comparison,
     .holding "HpAbsolute" .hpAbsolute comparison,
     .record "Stat" fun fields => do
       let stat ← fields.required? "stat" vocabulary
       let comparison ← fields.required? "comparison" comparison
       some (.stat stat comparison),
     .holding "HasStatus" .hasStatus (optional vocabulary),
     .plain "NoStatus" .noStatus,
     .holding "BattleType" .battleType (list vocabulary),
     .holding "MoveType" .moveType (list text),
     .holding "SuperEffective" .superEffective bool,
     .holding "Weather" .weather (list vocabulary),
     .holding "Terrain" .terrain (list vocabulary),
     .holding "TimeOfDay" .timeOfDay (list vocabulary),
     .holding "Location" .location (list text),
     .holding "RandomChance" .randomChance number,
     .holding "FirstUse" .firstUse bool,
     .holding "HeldItem" .heldItem (list text),
     .holding "Unrecognized" .unrecognized text]

def condition : Reader Condition :=
  record "Condition" fun fields => do
    let kind ← fields.required? "kind" conditionKind
    let probability ← fields.get? "probability" (optional number) none
    let negate ← fields.get? "negate" bool false
    some { kind, probability, negate }

def evolutionPath : Reader EvolutionPath :=
  record "EvolutionMapping" fun fields => do
    let before ← fields.required? "from" text
    let after ← fields.required? "to" text
    some { before, after }

def evolution : Reader Evolution :=
  record "EvolveParams" fun fields => do
    let into ← fields.required? "into" text
    let paths ← fields.get? "mapping" (list evolutionPath) []
    some { into, paths }

def lesson : Reader Lesson :=
  record "TeachMoveParams" fun fields => do
    let move ← fields.required? "move_id" text
    let learners ← fields.get? "compatible_species" (optional (list text)) none
    let consumesItem ← fields.get? "consumed_on_use" bool false
    some { move, learners, consumesItem }

def actionKind : Reader ActionKind :=
  oneOf
    [.holding "HealFixed" .healFixed word32,
     .holding "HealPercentage" .healPercentage number,
     .holding "CureStatus" .cureStatus (optional vocabulary),
     .record "BoostStat" fun fields => do
       let stat ← fields.required? "stat" vocabulary
       let stages ← fields.required? "stages" signed32
       some (.boostStat stat stages),
     .holding "Evolve" .evolve evolution,
     .holding "TeachMove" .teachMove lesson,
     .holding "ModifyCatchRate" .modifyCatchRate number,
     .plain "ConsumeItem" .consumeItem,
     .holding "ShowMessage" .showMessage text,
     .holding "PreventWildEncounters" .preventWildEncounters word32,
     .holding "Unrecognized" .unrecognized text]

def action : Reader Action :=
  record "Action" fun fields => do
    let kind ← fields.required? "kind" actionKind
    let target ← fields.get? "target" vocabulary .user
    let conditions ← fields.get? "conditions" (list condition) []
    let chance ← fields.get? "chance" (optional number) none
    let successMessage ← fields.get? "success_message" (optional text) none
    let failureMessage ← fields.get? "failure_message" (optional text) none
    some { kind, target, conditions, chance, successMessage, failureMessage }

def restrictions : Reader Restrictions :=
  record "Restrictions" fun fields => do
    let oncePerBattle ← fields.get? "once_per_battle" bool false
    let maxUses ← fields.get? "max_uses_per_battle" (optional word32) none
    let cooldown ← fields.get? "cooldown_turns" (optional word32) none
    some { oncePerBattle, maxUses, cooldown }

def effect : Reader Effect :=
  record "Effect" fun fields => do
    let id ← fields.required? "id" text
    let name ← fields.get? "name" (optional text) none
    let trigger ← fields.required? "trigger" vocabulary
    let priority ← fields.get? "priority" signed32 0
    let conditions ← fields.get? "conditions" (list condition) []
    let actions ← fields.required? "actions" (list action)
    let restrictions ← fields.get? "restrictions" restrictions {}
    some { id, name, trigger, priority, conditions, actions, restrictions }

def item : Reader Item :=
  record "ItemEffects" fun fields => do
    let id ← fields.required? "item" text
    let name ← fields.get? "name" (optional text) none
    let effects ← fields.required? "effects" (list effect)
    some { id, name, effects }

def catalog : Reader Catalog :=
  record "ItemCatalog" fun fields => do
    let items ← fields.required? "items" (list item)
    some { items }

end BattleItems.Content
