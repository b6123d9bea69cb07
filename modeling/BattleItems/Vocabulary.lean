/-!
# BattleItems.Vocabulary

The closed vocabularies that the rules reason about.

What a catalog may extend freely (species, elemental types, abilities, natures, moves, places,
items) stays text. Everything the engine itself distinguishes is an enumeration, listed in
declaration order, with two spellings for each word: the *tag* that files and reports use, and the
*label* that people read in messages.
-/

namespace BattleItems

/-- An enumeration with its two spellings. -/
class Vocabulary (α : Type) where
  /-- All words, in declaration order. -/
  all : List α
  tag : α → String
  label : α → String

namespace Vocabulary

variable {α : Type} [Vocabulary α]

/-- The word with the given tag. -/
def ofTag? (text : String) : Option α := (all : List α).find? fun word => tag word = text

/-- The word with the given label, spelled exactly as it is displayed. -/
def ofLabel? (text : String) : Option α := (all : List α).find? fun word => label word = text

end Vocabulary

export Vocabulary (tag label)

/-- The stats that boosts and stat conditions address. -/
inductive StatKind where
  | attack
  | defense
  | specialAttack
  | specialDefense
  | speed
  | accuracy
  | evasion
deriving DecidableEq, Repr

instance : Vocabulary StatKind where
  all := [.attack, .defense, .specialAttack, .specialDefense, .speed, .accuracy, .evasion]
  tag
    | .attack => "Attack"
    | .defense => "Defense"
    | .specialAttack => "SpecialAttack"
    | .specialDefense => "SpecialDefense"
    | .speed => "Speed"
    | .accuracy => "Accuracy"
    | .evasion => "Evasion"
  label
    | .attack => "Attack"
    | .defense => "Defense"
    | .specialAttack => "Special Attack"
    | .specialDefense => "Special Defense"
    | .speed => "Speed"
    | .accuracy => "Accuracy"
    | .evasion => "Evasion"

/-- The conditions that can afflict a creature; it carries at most one at a time. -/
inductive Status where
  | burn
  | freeze
  | paralysis
  | poison
  | badlyPoisoned
  | sleep
  | confusion
deriving DecidableEq, Repr

instance : Vocabulary Status where
  all := [.burn, .freeze, .paralysis, .poison, .badlyPoisoned, .sleep, .confusion]
  tag
    | .burn => "Burn"
    | .freeze => "Freeze"
    | .paralysis => "Paralysis"
    | .poison => "Poison"
    | .badlyPoisoned => "BadlyPoisoned"
    | .sleep => "Sleep"
    | .confusion => "Confusion"
  label
    | .burn => "Burn"
    | .freeze => "Freeze"
    | .paralysis => "Paralysis"
    | .poison => "Poison"
    | .badlyPoisoned => "Badly Poisoned"
    | .sleep => "Sleep"
    | .confusion => "Confusion"

inductive Gender where
  | male
  | female
  | genderless
deriving DecidableEq, Repr

instance : Vocabulary Gender where
  all := [.male, .female, .genderless]
  tag
    | .male => "Male"
    | .female => "Female"
    | .genderless => "Genderless"
  label
    | .male => "male"
    | .female => "female"
    | .genderless => "genderless"

inductive BattleKind where
  | wild
  | trainer
  | double
  | tournament
deriving DecidableEq, Repr

instance : Vocabulary BattleKind where
  all := [.wild, .trainer, .double, .tournament]
  tag
    | .wild => "Wild"
    | .trainer => "Trainer"
    | .double => "Double"
    | .tournament => "Tournament"
  label
    | .wild => "wild"
    | .trainer => "trainer"
    | .double => "double"
    | .tournament => "tournament"

inductive Weather where
  | rain
  | sun
  | sandstorm
  | hail
  | fog
deriving DecidableEq, Repr

instance : Vocabulary Weather where
  all := [.rain, .sun, .sandstorm, .hail, .fog]
  tag
    | .rain => "Rain"
    | .sun => "Sun"
    | .sandstorm => "Sandstorm"
    | .hail => "Hail"
    | .fog => "Fog"
  label
    | .rain => "rain"
    | .sun => "sun"
    | .sandstorm => "sandstorm"
    | .hail => "hail"
    | .fog => "fog"

inductive Terrain where
  | electric
  | grassy
  | misty
  | psychic
deriving DecidableEq, Repr

instance : Vocabulary Terrain where
  all := [.electric, .grassy, .misty, .psychic]
  tag
    | .electric => "Electric"
    | .grassy => "Grassy"
    | .misty => "Misty"
    | .psychic => "Psychic"
  label
    | .electric => "electric"
    | .grassy => "grassy"
    | .misty => "misty"
    | .psychic => "psychic"

inductive TimeOfDay where
  | morning
  | day
  | evening
  | night
deriving DecidableEq, Repr

instance : Vocabulary TimeOfDay where
  all := [.morning, .day, .evening, .night]
  tag
    | .morning => "Morning"
    | .day => "Day"
    | .evening => "Evening"
    | .night => "Night"
  label
    | .morning => "morning"
    | .day => "day"
    | .evening => "evening"
    | .night => "night"

/-- The game events that can fire an item's effects. -/
inductive Trigger where
  /-- The trainer uses the item directly. -/
  | onUse
  /-- The holder is hit by a move. -/
  | onHit
  | onFaint
  | onTurnStart
  | onTurnEnd
  | onSwitchIn
  | onStatusInflicted
  /-- The holder's HP drops below its threshold. -/
  | onLowHp
  /-- Always on, polled by the game. -/
  | passive
deriving DecidableEq, Repr

instance : Vocabulary Trigger where
  all := [.onUse, .onHit, .onFaint, .onTurnStart, .onTurnEnd, .onSwitchIn, .onStatusInflicted,
    .onLowHp, .passive]
  tag
    | .onUse => "OnUse"
    | .onHit => "OnHit"
    | .onFaint => "OnFaint"
    | .onTurnStart => "OnTurnStart"
    | .onTurnEnd => "OnTurnEnd"
    | .onSwitchIn => "OnSwitchIn"
    | .onStatusInflicted => "OnStatusInflicted"
    | .onLowHp => "OnLowHp"
    | .passive => "Passive"
  label
    | .onUse => "on_use"
    | .onHit => "on_hit"
    | .onFaint => "on_faint"
    | .onTurnStart => "on_turn_start"
    | .onTurnEnd => "on_turn_end"
    | .onSwitchIn => "on_switch_in"
    | .onStatusInflicted => "on_status_inflicted"
    | .onLowHp => "on_low_hp"
    | .passive => "passive"

/-- Which creature of the context an action applies to. -/
inductive Target where
  /-- The creature that the item is used on or held by. -/
  | user
  /-- The opposing creature. -/
  | opponent
deriving DecidableEq, Repr

instance : Vocabulary Target where
  all := [.user, .opponent]
  tag
    | .user => "User"
    | .opponent => "Opponent"
  label
    | .user => "user"
    | .opponent => "opponent"

end BattleItems
