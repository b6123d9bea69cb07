import BattleItems.Binary64.Basic
import BattleItems.Vocabulary

/-!
# BattleItems.Context

The state that one call of the engine reads and changes.

A `Context` is made for a single turn of battle or a single use in the field, handed to the engine
for one call, and kept or dropped afterwards. Conditions only read it; actions are the only code
that writes to it, and they reach a creature only through `Context.update`.
-/

namespace BattleItems

/-- The stats present on a creature. A stat that is absent cannot be boosted. -/
structure Stats where
  attack : Option UInt32 := none
  defense : Option UInt32 := none
  specialAttack : Option UInt32 := none
  specialDefense : Option UInt32 := none
  speed : Option UInt32 := none
  accuracy : Option UInt32 := none
  evasion : Option UInt32 := none
deriving DecidableEq, Repr

namespace Stats

def get? (stats : Stats) : StatKind → Option UInt32
  | .attack => stats.attack
  | .defense => stats.defense
  | .specialAttack => stats.specialAttack
  | .specialDefense => stats.specialDefense
  | .speed => stats.speed
  | .accuracy => stats.accuracy
  | .evasion => stats.evasion

def insert (stats : Stats) (stat : StatKind) (value : UInt32) : Stats :=
  match stat with
  | .attack => { stats with attack := some value }
  | .defense => { stats with defense := some value }
  | .specialAttack => { stats with specialAttack := some value }
  | .specialDefense => { stats with specialDefense := some value }
  | .speed => { stats with speed := some value }
  | .accuracy => { stats with accuracy := some value }
  | .evasion => { stats with evasion := some value }

/-- The stats present with their values, in the order of `StatKind`. -/
def toList (stats : Stats) : List (StatKind × UInt32) :=
  Vocabulary.all.filterMap fun stat => (stats.get? stat).map (stat, ·)

def ofList (entries : List (StatKind × UInt32)) : Stats :=
  entries.foldl (fun stats entry => stats.insert entry.1 entry.2) {}

@[simp] theorem get?_insert (stats : Stats) (stat other : StatKind) (value : UInt32) :
    (stats.insert stat value).get? other =
      if other = stat then some value else stats.get? other := by
  cases stat <;> cases other <;> rfl

end Stats

/-- One creature as item effects see it. -/
structure Creature where
  species : String := ""
  /-- Elemental types, such as water, or grass and poison. -/
  types : List String := []
  level : UInt32 := 0
  ability : Option String := none
  gender : Gender := .genderless
  nature : Option String := none
  friendship : UInt32 := 0
  hp : UInt32 := 0
  maxHp : UInt32 := 0
  status : Option Status := none
  stats : Stats := {}
  heldItem : Option String := none
  /-- Known moves, in the order they were learned. -/
  moves : List String := []
deriving DecidableEq, Repr

namespace Creature

/-- A creature at full HP. -/
def fresh (species : String) (level maxHp : UInt32) : Creature :=
  { species, level, hp := maxHp, maxHp }

def withStat (creature : Creature) (stat : StatKind) (value : UInt32) : Creature :=
  { creature with stats := creature.stats.insert stat value }

def isFainted (creature : Creature) : Bool := creature.hp == 0

def isFullHp (creature : Creature) : Bool := creature.maxHp ≤ creature.hp

def knows (creature : Creature) (move : String) : Bool := creature.moves.contains move

/-- Why the creature's HP make no sense, if they are above the maximum. -/
def excessHp? (creature : Creature) : Option String :=
  if creature.hp ≤ creature.maxHp then none
  else some s!"{creature.species} has hp {creature.hp} above max_hp {creature.maxHp}"

end Creature

/-- The state of a battle; absent when the item is used in the field. -/
structure Battle where
  kind : BattleKind := .wild
  /-- The current turn, from 1. Cooldowns count in turns. -/
  turn : UInt32 := 1
  weather : Option Weather := none
  terrain : Option Terrain := none
  /-- The type of the move that is being resolved. -/
  moveType : Option String := none
  /-- Whether the move that is being resolved is super effective. -/
  superEffective : Bool := false
  /-- The product of the multipliers of all capture items used. -/
  catchRateModifier : Binary64 := 1
deriving DecidableEq

namespace Battle

def withIncomingMove (battle : Battle) (moveType : String) (superEffective : Bool) : Battle :=
  { battle with moveType := some moveType, superEffective }

end Battle

/-- The world around the battle. -/
structure Overworld where
  timeOfDay : TimeOfDay := .day
  location : String := ""
  /-- Steps left during which no wild creature is met. -/
  repelSteps : UInt32 := 0
deriving DecidableEq, Repr

structure Trainer where
  id : String := ""
  name : String := ""
deriving DecidableEq, Repr

/-- What is known about the item's past; counters within a battle are kept in a `Ledger`. -/
structure ItemHistory where
  /-- The trainer has never used this item before. -/
  firstUse : Bool := true
deriving DecidableEq, Repr

/-- Everything that an effect may read or change during one call. -/
structure Context where
  /-- The creature that the item is used on or held by. -/
  creature : Creature := {}
  /-- The opposing creature, if there is one. -/
  opponent : Option Creature := none
  battle : Option Battle := none
  overworld : Overworld := {}
  trainer : Trainer := {}
  history : ItemHistory := {}
deriving DecidableEq

namespace Context

/-- The turn of the battle, or 0 outside battle. -/
def currentTurn (context : Context) : UInt32 :=
  match context.battle with
  | some battle => battle.turn
  | none => 0

/-- The creature that an action aims at, if it is there. -/
def target? (context : Context) : Target → Option Creature
  | .user => some context.creature
  | .opponent => context.opponent

/-- Puts a creature in the place of the one aimed at. -/
def update (context : Context) (target : Target) (creature : Creature) : Context :=
  match target with
  | .user => { context with creature }
  | .opponent => { context with opponent := some creature }

/-- The creatures present. -/
def creatures (context : Context) : List Creature :=
  context.creature :: context.opponent.toList

/-- No creature claims more HP than its maximum. -/
def HpWithinMax (context : Context) : Prop :=
  ∀ creature ∈ context.creatures, creature.hp ≤ creature.maxHp

instance (context : Context) : Decidable context.HpWithinMax :=
  inferInstanceAs (Decidable (∀ creature ∈ context.creatures, creature.hp ≤ creature.maxHp))

end Context

end BattleItems
