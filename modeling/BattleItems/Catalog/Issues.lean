import BattleItems.Catalog.Basic

/-!
# BattleItems.Catalog.Issues

Checks on a catalog.

The engine refuses or faults on data that it cannot make sense of. `Catalog.issues` finds that data
when the catalog is loaded, so that a bad entry is reported once, with its place, and not on every
use. Effect ids must be unique over the whole catalog, because a `Ledger` knows effects by id alone.
-/

namespace BattleItems

/-- What is wrong in one place of a catalog. -/
inductive Problem where
  | duplicateItem
  /-- The id was declared before by an item with the same id. -/
  | duplicateEffect
  | ownedBy (item : String)
  | noActions
  | zeroMaxUses
  | conditionProbability (value : Binary64)
  | unknownConditionKind (kind : String)
  | randomChance (value : Binary64)
  | invertedRange (lower upper : Binary64)
  | chance (value : Binary64)
  | unknownActionKind (kind : String)
  | noEvolution
  | healPercentage (value : Binary64)
  | catchRateMultiplier (value : Binary64)
  /-- A problem of the action at a position, counted from 0. -/
  | inAction (index : Nat) (problem : Problem)
deriving DecidableEq

namespace Problem

def message : Problem → String
  | duplicateItem => "duplicate item id"
  | duplicateEffect => "duplicate effect id"
  | ownedBy item => "effect id already declared by item \x60" ++ item ++ "\x60"
  | noActions => "effect has no actions"
  | zeroMaxUses => "max_uses_per_battle of 0 can never fire"
  | conditionProbability value => s!"condition probability {value} outside 0.0..=1.0"
  | unknownConditionKind kind => "unknown condition kind \x60" ++ kind ++ "\x60"
  | randomChance value => s!"random_chance {value} outside 0.0..=1.0"
  | invertedRange lower upper => s!"inverted range: min {lower} > max {upper}"
  | chance value => s!"chance {value} outside 0.0..=1.0"
  | unknownActionKind kind => "unknown action kind \x60" ++ kind ++ "\x60"
  | noEvolution => "evolve action has no mapping"
  | healPercentage value => s!"heal percentage {value} must be non-negative"
  | catchRateMultiplier value => s!"catch rate multiplier {value} must be non-negative"
  | inAction index problem => s!"action #{index}: " ++ problem.message

end Problem

/-- A problem and where it is. -/
structure Issue where
  item : String
  effect : Option String
  problem : Problem
deriving DecidableEq

namespace Issue

def message (issue : Issue) : String :=
  match issue.effect with
  | some effect => issue.item ++ "/" ++ effect ++ ": " ++ issue.problem.message
  | none => issue.item ++ ": " ++ issue.problem.message

end Issue

namespace Comparison

def problems (comparison : Comparison) : List Problem :=
  (comparison.invertedBounds?.map fun (lower, upper) => .invertedRange lower upper).toList

end Comparison

namespace ConditionKind

def problems : ConditionKind → List Problem
  | unrecognized kind => [.unknownConditionKind kind]
  | randomChance probability =>
    if probability.isProbability then [] else [.randomChance probability]
  | level comparison | friendship comparison | stat _ comparison | hpPercentage comparison
  | hpAbsolute comparison => comparison.problems
  | _ => []

end ConditionKind

/-- An optional probability that is none. -/
def badProbability? (probability : Option Binary64) : Option Binary64 :=
  probability.filter fun value => !value.isProbability

namespace Condition

def problems (condition : Condition) : List Problem :=
  ((badProbability? condition.probability).map .conditionProbability).toList ++
    condition.kind.problems

end Condition

namespace ActionKind

def problems : ActionKind → List Problem
  | unrecognized kind => [.unknownActionKind kind]
  | evolve evolution => if evolution.paths.isEmpty then [.noEvolution] else []
  | healPercentage percent => if percent.isNonNegative then [] else [.healPercentage percent]
  | modifyCatchRate multiplier =>
    if multiplier.isNonNegative then [] else [.catchRateMultiplier multiplier]
  | _ => []

end ActionKind

namespace Action

/-- The problems of an action: its chance, its conditions in order, its kind. -/
def problems (action : Action) : List Problem :=
  ((badProbability? action.chance).map .chance).toList ++
    action.conditions.flatMap Condition.problems ++ action.kind.problems

/-- The problems of actions that stand from a position on. -/
def listProblems (index : Nat) : List Action → List Problem
  | [] => []
  | action :: rest => action.problems.map (.inAction index) ++ listProblems (index + 1) rest

end Action

namespace Effect

/-- The problems within one effect. -/
def problems (effect : Effect) : List Problem :=
  (if effect.actions.isEmpty then [.noActions] else []) ++
    (if effect.restrictions.maxUses = some 0 then [.zeroMaxUses] else []) ++
    effect.conditions.flatMap Condition.problems ++ Action.listProblems 0 effect.actions

end Effect

namespace Catalog

/-- The declarations met so far: item ids, and effect ids with the item that declared each first. -/
structure Declared where
  items : List String := []
  owners : List (String × String) := []

namespace Declared

/-- The item that declared an effect id first. -/
def owner? (declared : Declared) (effect : String) : Option String :=
  (declared.owners.find? (·.1 = effect)).map (·.2)

def addItem (declared : Declared) (item : String) : Declared :=
  { declared with items := item :: declared.items }

/-- The first owner of an effect id stays its owner. -/
def addEffect (declared : Declared) (effect item : String) : Declared :=
  if (declared.owner? effect).isSome then declared
  else { declared with owners := (effect, item) :: declared.owners }

end Declared

/-- The problem with an effect id that is already taken. -/
def idProblem? (declared : Declared) (item effect : String) : Option Problem :=
  (declared.owner? effect).map fun owner =>
    if owner = item then .duplicateEffect else .ownedBy owner

/-- The issues of an item's effects, and the declarations after them. -/
def effectIssues (item : String) : Declared → List Effect → List Issue × Declared
  | declared, [] => ([], declared)
  | declared, effect :: rest =>
    let found := (idProblem? declared item effect.id).toList ++ effect.problems
    let (issues, last) := effectIssues item (declared.addEffect effect.id item) rest
    (found.map (⟨item, some effect.id, ·⟩) ++ issues, last)

/-- The issues of items, given the declarations before them. -/
def itemIssues : Declared → List Item → List Issue
  | _, [] => []
  | declared, item :: rest =>
    let again := if item.id ∈ declared.items then [⟨item.id, none, .duplicateItem⟩] else []
    let (issues, last) := effectIssues item.id (declared.addItem item.id) item.effects
    again ++ issues ++ itemIssues last rest

/-- Every issue of a catalog, in the order of declaration. A catalog without issues is valid. -/
def issues (catalog : Catalog) : List Issue := itemIssues {} catalog.items

end Catalog

end BattleItems
