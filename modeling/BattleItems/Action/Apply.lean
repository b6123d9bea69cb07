import BattleItems.Action.Basic
import BattleItems.Context
import BattleItems.Fault

/-!
# BattleItems.Action.Apply

What each kind of action does to the context.

The changes to a creature are functions on creatures: `Creature.restore`, `cure`, `boost`, `evolve`
and `learn`. Each gives an `Effort`, which says what came of it, together with the creature
afterwards; restoring HP may meet a fault instead. `ActionKind.apply` carries them to the creature
aimed at and adds the changes that concern the battle and the field. A fault takes nothing back: an
`Application` has the state that it left, whatever came of it.
-/

namespace BattleItems

/-- What came of applying a kind, before any message of the action's own. -/
structure Effort where
  success : Bool
  change : Change
  message : String
  consumedItem : Bool
deriving DecidableEq

namespace Effort

def succeeded (change : Change) (message : String) (consumedItem : Bool) : Effort :=
  { success := true, change, message, consumedItem }

/-- A failure changes nothing and never spends the item. -/
def failed (message : String) : Effort :=
  { success := false, change := .none, message, consumedItem := false }

end Effort

/-- What came of applying something to a state: an effort or a fault, and the state afterwards. -/
abbrev Application (σ : Type) := EStateM.Result Fault σ Effort

namespace Application

/-- An application that meets no fault. -/
def done {σ : Type} (result : Effort × σ) : Application σ := .ok result.1 result.2

/-- An application to a part of a state, seen from the whole. -/
def mapState {σ τ : Type} (put : σ → τ) : Application σ → Application τ
  | .ok effort after => .ok effort (put after)
  | .error fault after => .error fault (put after)

end Application

/-- The curve of stat boosts: `1 + stages / 2` upwards, and its reciprocal downwards. -/
def stageMultiplier (stages : Int32) : Binary64 :=
  let step := 1 + Binary64.ofNat stages.toInt.natAbs * (1 / 2)
  if 0 ≤ stages then step else 1 / step

/-- A stat value moved along the stage curve, rounded down and clamped to what a word holds. -/
def boostedStat (value : UInt32) (stages : Int32) : UInt32 :=
  (Binary64.ofNat value.toNat * stageMultiplier stages).floorWord

/-- How a boost is told. -/
def stagePhrase (stages : Int32) : String :=
  if stages ≤ -3 then "severely fell!"
  else if stages = -2 then "harshly fell!"
  else if stages = -1 then "fell!"
  else if stages = 0 then "was unchanged"
  else if stages = 1 then "rose!"
  else if stages = 2 then "rose sharply!"
  else "rose drastically!"

namespace Creature

/-- Restores HP up to the maximum; a creature that is at its maximum cannot be healed. -/
def restore (creature : Creature) (amount : UInt32) : Application Creature :=
  match creature.excessHp? with
  | some detail => .error (.invalidContext detail) creature
  | none =>
    if creature.isFullHp then .ok (.failed "Already at full HP") creature
    else
      let healed := min amount (creature.maxHp - creature.hp)
      .ok (.succeeded (.healed healed) s!"{creature.species} recovered {healed} HP" false)
        { creature with hp := creature.hp + healed }

/-- A percentage of the maximum HP, rounded down and clamped to what a word holds. -/
def shareOfMaxHp (creature : Creature) (percent : Binary64) : UInt32 :=
  (Binary64.ofNat creature.maxHp.toNat * percent / 100).floorWord

/-- Clears the status, if there is one and it is the wanted one. -/
def cure (creature : Creature) (wanted : Option Status) : Effort × Creature :=
  match creature.status with
  | none => (.failed s!"{creature.species} has no status condition", creature)
  | some current =>
    let cured := (Effort.succeeded (.statusCured current)
      s!"{creature.species} was cured of {label current}" false, { creature with status := none })
    match wanted with
    | none => cured
    | some wanted =>
      if current = wanted then cured
      else (.failed s!"{creature.species} is not affected by {label wanted}", creature)

/-- Boosts a stat that the creature has. -/
def boost (creature : Creature) (stat : StatKind) (stages : Int32) : Effort × Creature :=
  match creature.stats.get? stat with
  | none => (.failed s!"{creature.species} has no {label stat} stat", creature)
  | some before =>
    let after := boostedStat before stages
    let phrase := stagePhrase stages
    (.succeeded (.statChanged stat before after)
        s!"{creature.species}'s {label stat} {phrase}" false,
      creature.withStat stat after)

/-- Evolves along a path from the current species to the wanted one. -/
def evolve (creature : Creature) (evolution : Evolution) : Effort × Creature :=
  if evolution.paths.isEmpty then (.failed "No evolution is defined for this item", creature)
  else if evolution.paths.contains ⟨creature.species, evolution.into⟩ then
    (.succeeded (.evolved creature.species evolution.into)
      s!"{creature.species} evolved into {evolution.into}!" true,
      { creature with species := evolution.into })
  else (.failed s!"It had no effect on {creature.species}", creature)

/-- Teaches a move to a species that can learn it. A move that is known already counts as learned
and is not added again. -/
def learn (creature : Creature) (lesson : Lesson) : Effort × Creature :=
  let move := lesson.move
  if lesson.learners.all (·.contains creature.species) then
    if creature.knows move then
      (.succeeded (.moveLearned move false) s!"{creature.species} already knows {move}"
        lesson.consumesItem, creature)
    else
      (.succeeded (.moveLearned move true) s!"{creature.species} learned {move}!"
        lesson.consumesItem, { creature with moves := creature.moves ++ [move] })
  else (.failed s!"{creature.species} can't learn {move}", creature)

end Creature

namespace Context

/-- Applies a change to the creature aimed at; without one the effort fails. -/
def onTarget (context : Context) (target : Target)
    (change : Creature → Application Creature) : Application Context :=
  match context.target? target with
  | none => .ok (.failed s!"No {label target} to use this on") context
  | some creature => (change creature).mapState (context.update target)

/-- Multiplies the catch rate modifier of a battle. -/
def multiplyCatchRate (context : Context) (multiplier : Binary64) : Effort × Context :=
  match context.battle with
  | none => (.failed "Can only be used in battle", context)
  | some battle =>
    let total := battle.catchRateModifier * multiplier
    (.succeeded (.catchRate multiplier total) s!"Catch rate multiplied by {multiplier}" true,
      { context with battle := some { battle with catchRateModifier := total } })

def repelFor (context : Context) (steps : UInt32) : Effort × Context :=
  (.succeeded (.encounterSteps steps) s!"Wild creatures will stay away for {steps} steps" false,
    { context with overworld := { context.overworld with repelSteps := steps } })

end Context

namespace Fault

/-- The fault of a parameter that should have been a number from zero up. -/
def notNonNegative (what : String) (value : Binary64) : Fault :=
  malformedAction s!"{what} must be a non-negative number, got {value}"

end Fault

namespace ActionKind

/-- Applies a kind to a context. -/
def apply (kind : ActionKind) (target : Target) (context : Context) : Application Context :=
  match kind with
  | healFixed amount => context.onTarget target (·.restore amount)
  | healPercentage percent =>
    if percent.isNonNegative then
      context.onTarget target fun creature => creature.restore (creature.shareOfMaxHp percent)
    else .error (.notNonNegative "heal percentage" percent) context
  | cureStatus wanted => context.onTarget target fun creature => .done (creature.cure wanted)
  | boostStat stat stages =>
    context.onTarget target fun creature => .done (creature.boost stat stages)
  | evolve evolution => context.onTarget target fun creature => .done (creature.evolve evolution)
  | teachMove lesson => context.onTarget target fun creature => .done (creature.learn lesson)
  | modifyCatchRate multiplier =>
    if multiplier.isNonNegative then .done (context.multiplyCatchRate multiplier)
    else .error (.notNonNegative "catch rate multiplier" multiplier) context
  | consumeItem => .ok (.succeeded .none "The item was used up" true) context
  | showMessage text => .ok (.succeeded (.message text) text false) context
  | preventWildEncounters steps => .done (context.repelFor steps)
  | unrecognized kind => .ok (.failed s!"Unknown action kind: {kind}") context

end ActionKind

end BattleItems
