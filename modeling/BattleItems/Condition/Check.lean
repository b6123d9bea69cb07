import BattleItems.Condition.Basic
import BattleItems.Context
import BattleItems.Random.Source

/-!
# BattleItems.Condition.Check

Checking conditions against a context.

One condition is decided in a fixed order: a malformed probability is a fault, then the question is
asked, then `negate` turns the answer around, and only a yes goes on to the gate of chance. A list
of conditions is a conjunction from left to right that stops at the first failure, so that nothing
behind it draws from the source.

All questions but `randomChance` are answered by `ConditionKind.holdsIn`, a function of the context
alone.
-/

namespace BattleItems

namespace Creature

/-- HP over maximum HP, times one hundred, each step rounded. -/
def hpPercentage (creature : Creature) : Binary64 :=
  Binary64.ofNat creature.hp.toNat / Binary64.ofNat creature.maxHp.toNat * 100

end Creature

namespace ConditionKind

/-- Whether something active is accepted, where an empty list accepts anything. -/
def acceptsActive {α : Type} [DecidableEq α] (accepted : List α) (active : Option α) : Bool :=
  active.any fun value => accepted.isEmpty || accepted.contains value

/-- The answer of the context to a question that needs no draw. -/
def holdsIn (kind : ConditionKind) (context : Context) : Bool :=
  let creature := context.creature
  let battle := context.battle
  match kind with
  | species accepted => accepted.contains creature.species
  | creatureType accepted => creature.types.any accepted.contains
  | level comparison => comparison.admits (.ofNat creature.level.toNat)
  | ability accepted => creature.ability.any accepted.contains
  | gender accepted => accepted.contains creature.gender
  | nature accepted => creature.nature.any accepted.contains
  | friendship comparison => comparison.admits (.ofNat creature.friendship.toNat)
  | stat name comparison =>
    (creature.stats.get? name).any fun value => comparison.admits (.ofNat value.toNat)
  | hpPercentage comparison => comparison.admits creature.hpPercentage
  | hpAbsolute comparison => comparison.admits (.ofNat creature.hp.toNat)
  | hasStatus (some wanted) => creature.status == some wanted
  | hasStatus none => creature.status.isSome
  | noStatus => creature.status.isNone
  | battleType accepted => battle.any fun battle => accepted.contains battle.kind
  | moveType accepted => (battle.bind Battle.moveType).any accepted.contains
  | superEffective expected => battle.any Battle.superEffective == expected
  | weather accepted => acceptsActive accepted (battle.bind Battle.weather)
  | terrain accepted => acceptsActive accepted (battle.bind Battle.terrain)
  | timeOfDay accepted => accepted.contains context.overworld.timeOfDay
  | location accepted => accepted.contains context.overworld.location
  | firstUse expected => context.history.firstUse == expected
  | heldItem accepted => creature.heldItem.any accepted.contains
  | randomChance _ | unrecognized _ => false

variable {σ : Type} [DrawSource σ]

/-- The answer to a question. A probability outside its range and a percentage of no HP are
faults. -/
def holds (kind : ConditionKind) (context : Context) : Trial σ Bool :=
  match kind with
  | randomChance probability =>
    if probability.isProbability then chance probability
    else throw (.fault (.malformedCondition (Fault.notAProbability "random chance" probability)))
  | hpPercentage _ =>
    if context.creature.maxHp = 0 then
      throw (.fault (.invalidContext s!"{context.creature.species} has max_hp 0"))
    else pure (kind.holdsIn context)
  | _ => pure (kind.holdsIn context)

end ConditionKind

namespace Condition

variable {σ : Type} [DrawSource σ]

/-- Why a condition fails on the answer to its question. -/
def refusal (condition : Condition) : String :=
  (if condition.negate then "Excluded: " else "Requirement not met: ") ++ condition.kind.describe

/-- The question and `negate`, without the gate of chance. -/
def ask (condition : Condition) (context : Context) : Trial σ Verdict := do
  let holds ← condition.kind.holds context
  pure (if holds != condition.negate then .passed else .failed condition.refusal)

/-- The gate of chance behind a question. -/
def roll (probability : Binary64) : Trial σ Verdict := do
  let passed ← chance probability
  pure (if passed then .passed
    else .failed ("Chance roll failed (" ++ probability.percentText ++ "% chance)"))

/-- Checks one condition. A kind that is not known fails whatever its probability and `negate`
say. -/
def check (condition : Condition) (context : Context) : Trial σ Verdict :=
  match condition.kind, condition.probability with
  | .unrecognized kind, _ => pure (.failed s!"Unknown condition kind: {kind}")
  | _, none => condition.ask context
  | _, some probability =>
    if probability.isProbability then do
      let verdict ← condition.ask context
      if verdict.isPassed then roll probability else pure verdict
    else
      throw (.fault (.malformedCondition
        (Fault.notAProbability "condition probability" probability)))

/-- Checks conditions from left to right up to the first that does not pass. No condition at all
passes. -/
def checkAll (conditions : List Condition) (context : Context) : Trial σ Verdict :=
  match conditions with
  | [] => pure .passed
  | condition :: rest => do
    let verdict ← condition.check context
    if verdict.isPassed then checkAll rest context else pure verdict

end Condition

end BattleItems
