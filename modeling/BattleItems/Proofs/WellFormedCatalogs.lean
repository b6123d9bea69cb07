import BattleItems.Proofs.CatalogIssues
import BattleItems.Proofs.Numbers

/-!
# BattleItems.Proofs.WellFormedCatalogs

The checks on a catalog accept exactly the well-formed ones.

`Catalog.WellFormed` says what a catalog should be like, place by place, and does not mention the
checks: it looks at what is declared and at numbers by their places. The checks are sound for it,
as nothing that is not well-formed passes, and complete, as nothing well-formed is reported. Each
level has one lemma for both (`Condition.problems_eq_nil_iff_wellFormed` and so on).
-/

namespace BattleItems

/-! ### Well-formed declarations -/

/-- A range with two bounds of which the lower one is the greater. -/
def Comparison.IsInverted (comparison : Comparison) : Prop :=
  ∃ lower upper, comparison = .range (some lower) (some upper) ∧ upper.less lower = true

/-- The comparison that a condition of a numeric kind makes. -/
def ConditionKind.comparison? : ConditionKind → Option Comparison
  | level comparison | friendship comparison | stat _ comparison | hpPercentage comparison
  | hpAbsolute comparison => some comparison
  | _ => none

structure Condition.WellFormed (condition : Condition) : Prop where
  known : ∀ name, condition.kind ≠ .unrecognized name
  probability : ∀ value, condition.probability = some value → value.IsShare
  randomChance : ∀ value, condition.kind = .randomChance value → value.IsShare
  comparison : ∀ comparison, condition.kind.comparison? = some comparison → ¬comparison.IsInverted

structure Action.WellFormed (action : Action) : Prop where
  known : ∀ name, action.kind ≠ .unrecognized name
  chance : ∀ value, action.chance = some value → value.IsShare
  conditions : ∀ condition ∈ action.conditions, condition.WellFormed
  evolution : ∀ evolution, action.kind = .evolve evolution → evolution.paths ≠ []
  healing : ∀ percent, action.kind = .healPercentage percent → percent.IsAmount
  catchRate : ∀ multiplier, action.kind = .modifyCatchRate multiplier → multiplier.IsAmount

structure Effect.WellFormed (effect : Effect) : Prop where
  actions_ne_nil : effect.actions ≠ []
  maxUses : effect.restrictions.maxUses ≠ some 0
  conditions : ∀ condition ∈ effect.conditions, condition.WellFormed
  actions : ∀ action ∈ effect.actions, action.WellFormed

structure Catalog.WellFormed (catalog : Catalog) : Prop where
  items : (catalog.items.map (·.id)).Nodup
  /-- Over all effects of all items. -/
  effectIds : (catalog.items.flatMap fun item => item.effects.map (·.id)).Nodup
  effects : ∀ item ∈ catalog.items, ∀ effect ∈ item.effects, effect.WellFormed

/-! ### Level by level -/

theorem Comparison.problems_eq_nil_iff {comparison : Comparison} :
    comparison.problems = [] ↔ ¬comparison.IsInverted := by
  rw [problems, Option.toList_eq_nil_iff, Option.map_eq_none_iff]
  constructor
  · rintro hnone ⟨lower, upper, rfl, hless⟩
    simp [invertedBounds?, hless] at hnone
  · intro hordered
    unfold invertedBounds?
    split
    · rename_i lower upper
      rw [if_neg fun hless => hordered ⟨lower, upper, rfl, hless⟩]
    · rfl

/-- One case for each kind that is looked at; the others have nothing that could be wrong. -/
theorem ConditionKind.problems_eq_nil_iff {kind : ConditionKind} :
    kind.problems = [] ↔
      (∀ name, kind ≠ .unrecognized name) ∧
        (∀ value, kind = .randomChance value → value.IsShare) ∧
        ∀ comparison, kind.comparison? = some comparison → ¬comparison.IsInverted := by
  cases kind with
  | unrecognized name => simp [problems]
  | randomChance value => simp [problems, comparison?, Binary64.isProbability_iff]
  | level comparison | friendship comparison | stat _ comparison | hpPercentage comparison
  | hpAbsolute comparison => simp [problems, comparison?, Comparison.problems_eq_nil_iff]
  | _ => simp [problems, comparison?]

theorem Condition.problems_eq_nil_iff_wellFormed {condition : Condition} :
    condition.problems = [] ↔ condition.WellFormed := by
  rw [problems_eq_nil_iff, ConditionKind.problems_eq_nil_iff]
  simp only [Binary64.isProbability_iff]
  constructor
  · rintro ⟨hprobability, hknown, hchance, hcomparison⟩
    exact ⟨hknown, hprobability, hchance, hcomparison⟩
  · rintro ⟨hknown, hprobability, hchance, hcomparison⟩
    exact ⟨hprobability, hknown, hchance, hcomparison⟩

theorem ActionKind.problems_eq_nil_iff {kind : ActionKind} :
    kind.problems = [] ↔
      (∀ name, kind ≠ .unrecognized name) ∧
        (∀ evolution, kind = .evolve evolution → evolution.paths ≠ []) ∧
        (∀ percent, kind = .healPercentage percent → percent.IsAmount) ∧
        ∀ multiplier, kind = .modifyCatchRate multiplier → multiplier.IsAmount := by
  cases kind with
  | unrecognized name => simp [problems]
  | evolve evolution => simp [problems]
  | healPercentage percent => simp [problems, Binary64.isNonNegative_iff]
  | modifyCatchRate multiplier => simp [problems, Binary64.isNonNegative_iff]
  | _ => simp [problems]

theorem Action.problems_eq_nil_iff_wellFormed {action : Action} :
    action.problems = [] ↔ action.WellFormed := by
  rw [problems_eq_nil_iff, ActionKind.problems_eq_nil_iff]
  simp only [Binary64.isProbability_iff, Condition.problems_eq_nil_iff_wellFormed]
  constructor
  · rintro ⟨hchance, hconditions, hknown, hevolution, hhealing, hcatchRate⟩
    exact ⟨hknown, hchance, hconditions, hevolution, hhealing, hcatchRate⟩
  · rintro ⟨hknown, hchance, hconditions, hevolution, hhealing, hcatchRate⟩
    exact ⟨hchance, hconditions, hknown, hevolution, hhealing, hcatchRate⟩

theorem Effect.problems_eq_nil_iff_wellFormed {effect : Effect} :
    effect.problems = [] ↔ effect.WellFormed := by
  rw [problems_eq_nil_iff]
  simp only [Condition.problems_eq_nil_iff_wellFormed, Action.problems_eq_nil_iff_wellFormed]
  constructor
  · rintro ⟨hnonempty, hmaxUses, hconditions, hactions⟩
    exact ⟨hnonempty, hmaxUses, hconditions, hactions⟩
  · rintro ⟨hnonempty, hmaxUses, hconditions, hactions⟩
    exact ⟨hnonempty, hmaxUses, hconditions, hactions⟩

/-- **The checks accept exactly the well-formed catalogs.** -/
theorem Catalog.issues_eq_nil_iff_wellFormed (catalog : Catalog) :
    catalog.issues = [] ↔ catalog.WellFormed := by
  rw [issues_eq_nil_iff]
  simp only [Effect.problems_eq_nil_iff_wellFormed]
  constructor
  · rintro ⟨hitems, hids, hsound⟩
    exact ⟨hitems, hids, fun item hitem effect heffect => hsound effect ⟨item, hitem, heffect⟩⟩
  · rintro ⟨hitems, hids, hsound⟩
    exact ⟨hitems, hids, fun effect ⟨item, hitem, heffect⟩ => hsound item hitem effect heffect⟩

end BattleItems
