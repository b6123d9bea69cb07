import BattleItems.Condition.Comparison
import BattleItems.Vocabulary

/-!
# BattleItems.Condition.Basic

Conditions as a catalog declares them, and the sentences that describe them.
-/

namespace BattleItems

/-- What a condition asks. A question of membership holds the accepted values; asking for one value
is a list of one. -/
inductive ConditionKind where
  | species (accepted : List String)
  /-- Any of the creature's types is accepted. -/
  | creatureType (accepted : List String)
  | level (comparison : Comparison)
  | ability (accepted : List String)
  | gender (accepted : List Gender)
  | nature (accepted : List String)
  | friendship (comparison : Comparison)
  /-- The value of a stat; a stat that is absent never passes. -/
  | stat (stat : StatKind) (comparison : Comparison)
  /-- The HP as a percentage of the maximum. -/
  | hpPercentage (comparison : Comparison)
  | hpAbsolute (comparison : Comparison)
  /-- That status, or any if none is given. -/
  | hasStatus (wanted : Option Status)
  | noStatus
  | battleType (accepted : List BattleKind)
  | moveType (accepted : List String)
  | superEffective (expected : Bool)
  /-- An empty list accepts any active weather. -/
  | weather (accepted : List Weather)
  /-- An empty list accepts any active terrain. -/
  | terrain (accepted : List Terrain)
  | timeOfDay (accepted : List TimeOfDay)
  | location (accepted : List String)
  /-- A draw of its own, with this probability. -/
  | randomChance (probability : Binary64)
  | firstUse (expected : Bool)
  | heldItem (accepted : List String)
  /-- A kind from a newer catalog; it never passes. -/
  | unrecognized (kind : String)
deriving DecidableEq

/-- One question and what is done with the answer. -/
structure Condition where
  kind : ConditionKind
  /-- A gate of chance behind the question, tried only if the answer is yes. -/
  probability : Option Binary64 := none
  /-- Turns the answer around. -/
  negate : Bool := false
deriving DecidableEq

namespace Condition

def negated (condition : Condition) : Condition :=
  { condition with negate := !condition.negate }

def withProbability (condition : Condition) (probability : Binary64) : Condition :=
  { condition with probability := some probability }

end Condition

/-- Texts in brackets, separated by commas. -/
def bracketed (items : List String) : String :=
  "[" ++ String.intercalate ", " items ++ "]"

/-- The labels of words in brackets. -/
def bracketedLabels {α : Type} [Vocabulary α] (items : List α) : String :=
  bracketed (items.map label)

namespace ConditionKind

/-- What is required, as the end of a sentence. -/
def describe : ConditionKind → String
  | species accepted => "species must be one of " ++ bracketed accepted
  | creatureType accepted => "type must include one of " ++ bracketed accepted
  | level comparison => s!"level must be {comparison}"
  | ability accepted => "ability must be one of " ++ bracketed accepted
  | gender accepted => "gender must be one of " ++ bracketedLabels accepted
  | nature accepted => "nature must be one of " ++ bracketed accepted
  | friendship comparison => s!"friendship must be {comparison}"
  | stat name comparison => s!"{label name} must be {comparison}"
  | hpPercentage comparison => s!"HP % must be {comparison}"
  | hpAbsolute comparison => s!"HP must be {comparison}"
  | hasStatus (some wanted) => s!"must be affected by {label wanted}"
  | hasStatus none => "must have a status condition"
  | noStatus => "must have no status condition"
  | battleType accepted => "battle must be one of " ++ bracketedLabels accepted
  | moveType accepted => "move type must be one of " ++ bracketed accepted
  | superEffective true => "move must be super effective"
  | superEffective false => "move must not be super effective"
  | weather [] => "weather must be active"
  | weather accepted => "weather must be one of " ++ bracketedLabels accepted
  | terrain [] => "terrain must be active"
  | terrain accepted => "terrain must be one of " ++ bracketedLabels accepted
  | timeOfDay accepted => "time must be one of " ++ bracketedLabels accepted
  | location accepted => "location must be one of " ++ bracketed accepted
  | randomChance probability => probability.percentText ++ "% chance"
  | firstUse true => "item must not have been used before"
  | firstUse false => "item must have been used before"
  | heldItem accepted => "held item must be one of " ++ bracketed accepted
  | unrecognized kind => s!"unknown condition kind {kind}"

end ConditionKind

/-- The answer to a condition. A failure says why. An answer is only ever made in these two ways,
passed and without a reason or failed and with one. -/
inductive Verdict where
  | passed
  | failed (reason : String)
deriving DecidableEq, Repr

namespace Verdict

def isPassed : Verdict → Bool
  | passed => true
  | failed _ => false

def reason? : Verdict → Option String
  | passed => none
  | failed reason => some reason

/-- The reason, or a general one where there is none. -/
def reasonText (verdict : Verdict) : String := verdict.reason?.getD "Conditions not met"

end Verdict

end BattleItems
