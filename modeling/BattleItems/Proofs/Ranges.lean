import BattleItems.Content.Catalog
import BattleItems.Proofs.ValidCatalogs
import BattleItems.Proofs.WellFormedCatalogs

/-!
# BattleItems.Proofs.Ranges

Which ranges admit a number.

A range whose lower bound lies above its upper one admits nothing, and the checks on catalogs report
it. Any other range admits its own bounds, the infinite ones and both zeros included, as long as
they lie on the line (`Comparison.admits_bound`). Not-a-number does not: it lies above no number, so
the checks let a range with such a bound through, and below none, so nothing passes the range. This
is the one way in which a range of a valid catalog can fail to admit a number.
-/

namespace BattleItems

open Binary64

namespace Comparison

/-- There is a number that passes. -/
def IsSatisfiable (comparison : Comparison) : Prop := ∃ x, comparison.admits x = true

variable {lower upper : Option Binary64} {x : Binary64}

theorem admits_range_iff :
    (range lower upper).admits x = true ↔
      (∀ bound, lower = some bound → bound.lessEq x = true) ∧
        ∀ bound, upper = some bound → x.lessEq bound = true := by
  simp only [admits, Bool.and_eq_true, Option.all_eq_true]

/-- A range that is not inverted admits its own bounds. -/
theorem admits_bound (hlower : lower ≠ some nan) (hupper : upper ≠ some nan)
    (hordered : ¬(range lower upper).IsInverted) (hx : lower = some x ∨ upper = some x) :
    (range lower upper).admits x = true := by
  have hnumber : x ≠ nan := by
    rintro rfl
    rcases hx with hx | hx
    · exact hlower hx
    · exact hupper hx
  have hle (a b : Binary64) (ha : lower = some a) (hb : upper = some b) : a.lessEq b = true := by
    subst ha hb
    refine lessEq_of_not_less ?_ ?_ fun hless => hordered ⟨a, b, rfl, hless⟩
    · exact fun hnan => hlower (congrArg some hnan)
    · exact fun hnan => hupper (congrArg some hnan)
  rw [admits_range_iff]
  constructor
  · intro bound hbound
    rcases hx with hx | hx
    · obtain rfl := Option.some.inj (hbound.symm.trans hx)
      exact lessEq_refl hnumber
    · exact hle bound x hbound hx
  · intro bound hbound
    rcases hx with hx | hx
    · exact hle x bound hx hbound
    · obtain rfl := Option.some.inj (hbound.symm.trans hx)
      exact lessEq_refl hnumber

theorem not_isInverted_of_isSatisfiable (h : (range lower upper).IsSatisfiable) :
    ¬(range lower upper).IsInverted := by
  obtain ⟨x, hx⟩ := h
  obtain ⟨hlower, hupper⟩ := admits_range_iff.mp hx
  rintro ⟨a, b, heq, hless⟩
  injection heq with ha hb
  exact not_less_of_lessEq (lessEq_trans (hlower a ha) (hupper b hb)) hless

/-- A range admits a number exactly if its bounds are numbers and are not inverted. -/
theorem isSatisfiable_range_iff :
    (range lower upper).IsSatisfiable ↔
      (lower ≠ some nan ∧ upper ≠ some nan) ∧ ¬(range lower upper).IsInverted := by
  constructor
  · intro h
    refine ⟨?_, not_isInverted_of_isSatisfiable h⟩
    obtain ⟨x, hx⟩ := h
    obtain ⟨hlower, hupper⟩ := admits_range_iff.mp hx
    constructor
    · exact fun hnan => (ne_nan_of_lessEq (hlower nan hnan)).1 rfl
    · exact fun hnan => (ne_nan_of_lessEq (hupper nan hnan)).2 rfl
  · rintro ⟨⟨hlower, hupper⟩, hordered⟩
    cases lower with
    | some bound => exact ⟨bound, admits_bound hlower hupper hordered (Or.inl rfl)⟩
    | none =>
      cases upper with
      | some bound => exact ⟨bound, admits_bound hlower hupper hordered (Or.inr rfl)⟩
      | none => exact ⟨0, rfl⟩

end Comparison

namespace Catalog

/-- A condition of the catalog, be it of an effect or of one of its actions, makes the comparison. -/
def Compares (catalog : Catalog) (comparison : Comparison) : Prop :=
  ∃ effect, catalog.Declares effect ∧
    ∃ condition ∈ effect.allConditions, condition.kind.comparison? = some comparison

theorem Compares.not_isInverted {catalog : Catalog} {comparison : Comparison}
    (h : catalog.Compares comparison) (hvalid : catalog.issues = []) :
    ¬comparison.IsInverted := by
  obtain ⟨effect, hdeclared, condition, hcondition, hcomparison⟩ := h
  have heffect := Effect.problems_eq_nil_iff_wellFormed.mp (hdeclared.problems_eq_nil hvalid)
  have hwellFormed : condition.WellFormed := by
    rcases List.mem_append.mp hcondition with hown | hscoped
    · exact heffect.conditions condition hown
    · obtain ⟨action, haction, hmem⟩ := List.mem_flatMap.mp hscoped
      exact (heffect.actions action haction).conditions condition hmem
  exact hwellFormed.comparison comparison hcomparison

/-- **Ranges of a valid catalog.** A range that a valid catalog makes somewhere admits a number
exactly if not-a-number is none of its bounds, and then it admits each bound that it has. -/
theorem ranges_satisfiable_but_for_nan (catalog : Catalog) (hvalid : catalog.issues = [])
    (lower upper : Option Binary64) (hcompares : catalog.Compares (.range lower upper)) :
    ((Comparison.range lower upper).IsSatisfiable ↔
        lower ≠ some .nan ∧ upper ≠ some .nan) ∧
      (lower ≠ some .nan ∧ upper ≠ some .nan →
        ∀ bound, lower = some bound ∨ upper = some bound →
          (Comparison.range lower upper).admits bound = true) := by
  have hordered := hcompares.not_isInverted hvalid
  constructor
  · rw [Comparison.isSatisfiable_range_iff, and_iff_left hordered]
  · rintro ⟨hlower, hupper⟩ bound hbound
    exact Comparison.admits_bound hlower hupper hordered hbound

/-- A berry for creatures whose HP are between the two zeros, with an action for those of infinite
level: both ranges are accepted, and a number passes each. -/
theorem ranges_satisfiable_but_for_nan_berry :
    let minusZero : Binary64 := .ofUnits true 0 1
    let endless : Binary64 := .infinite false
    let berry : Effect := {
      id := "berry", trigger := .onUse,
      conditions := [{ kind := .hpAbsolute (.range (some 0) (some minusZero)) }],
      actions := [{
        kind := .healFixed 5,
        conditions := [{ kind := .level (.range (some endless) none) }] }] }
    let catalog : Catalog := ⟨[{ id := "berry", effects := [berry] }]⟩
    catalog.issues = [] ∧
      catalog.Compares (.range (some 0) (some minusZero)) ∧
      (Comparison.range (some 0) (some minusZero)).admits minusZero = true ∧
      catalog.Compares (.range (some endless) none) ∧
      (Comparison.range (some endless) none).IsSatisfiable := by
  intro minusZero endless berry catalog
  have hvalid : catalog.issues = [] := by decide +kernel
  have hdeclared : catalog.Declares berry := ⟨_, List.mem_cons_self, List.mem_cons_self⟩
  have hzeros : catalog.Compares (.range (some 0) (some minusZero)) :=
    ⟨berry, hdeclared, _, List.mem_cons_self, rfl⟩
  have hendless : catalog.Compares (.range (some endless) none) :=
    ⟨berry, hdeclared, _, List.mem_cons_of_mem _ List.mem_cons_self, rfl⟩
  obtain ⟨-, hbounds⟩ := ranges_satisfiable_but_for_nan catalog hvalid _ _ hzeros
  obtain ⟨hsatisfiable, -⟩ := ranges_satisfiable_but_for_nan catalog hvalid _ _ hendless
  refine ⟨hvalid, hzeros, hbounds ⟨by decide +kernel, by decide +kernel⟩ _ (Or.inr rfl), hendless,
    hsatisfiable.mpr ⟨by decide +kernel, by decide +kernel⟩⟩

/-- A condition on levels between not-a-number and 10 can be read, and a catalog with it is accepted,
although no level passes. -/
theorem nan_range_is_unsatisfiable :
    let levels : Comparison := .range (some .nan) (some 10)
    let condition : Condition := { kind := .level levels }
    let charm : Effect := {
      id := "charm", trigger := .onUse, conditions := [condition],
      actions := [{ kind := .consumeItem }] }
    let catalog : Catalog := ⟨[{ id := "charm", effects := [charm] }]⟩
    Content.condition.document? "(kind: Level(Range(min: Some(NaN), max: Some(10))))" =
        some condition ∧
      catalog.issues = [] ∧ catalog.Compares levels ∧ ¬levels.IsSatisfiable := by
  intro levels condition charm catalog
  have hcompares : catalog.Compares levels :=
    ⟨charm, ⟨_, List.mem_cons_self, List.mem_cons_self⟩, condition, List.mem_cons_self, rfl⟩
  refine ⟨by decide +kernel, by decide +kernel, hcompares, ?_⟩
  rw [Comparison.isSatisfiable_range_iff]
  rintro ⟨⟨hlower, -⟩, -⟩
  exact hlower rfl

end Catalog

end BattleItems
