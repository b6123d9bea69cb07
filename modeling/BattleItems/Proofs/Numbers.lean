import BattleItems.Binary64.Basic

/-!
# BattleItems.Proofs.Numbers

What the tests on double precision numbers say about the numbers.

The tests are stated on the line of integers that `Binary64.place?` puts the numbers on, so the
order is total but for not-a-number, which has no place (`Binary64.lessEq_of_not_less`). A *share*
lies from zero to one, and an *amount* is finite and not below zero; not-a-number is neither.
-/

namespace BattleItems

namespace Binary64

theorem place?_zero : (0 : Binary64).place? = some 0 := by decide +kernel

theorem place?_one : (1 : Binary64).place? = some (one : Int) := by decide +kernel

/-- A number from zero to one. -/
def IsShare (x : Binary64) : Prop := ∃ place, x.place? = some place ∧ 0 ≤ place ∧ place ≤ one

/-- A finite number from zero up. -/
def IsAmount (x : Binary64) : Prop := x.isFinite = true ∧ ∃ place, x.place? = some place ∧ 0 ≤ place

variable {x y : Binary64}

theorem less_eq_true_iff :
    x.less y = true ↔ ∃ a b, x.place? = some a ∧ y.place? = some b ∧ a < b := by
  unfold less
  cases x.place? <;> cases y.place? <;> simp

theorem lessEq_eq_true_iff :
    x.lessEq y = true ↔ ∃ a b, x.place? = some a ∧ y.place? = some b ∧ a ≤ b := by
  unfold lessEq
  cases x.place? <;> cases y.place? <;> simp

theorem equals_eq_true_iff :
    x.equals y = true ↔ ∃ a b, x.place? = some a ∧ y.place? = some b ∧ a = b := by
  unfold equals
  cases x.place? <;> cases y.place? <;> grind

theorem exists_place?_eq (h : x ≠ nan) : ∃ place, x.place? = some place := by
  cases x with
  | nan => exact absurd rfl h
  | infinite _ | finite _ _ => exact ⟨_, rfl⟩

theorem ne_nan_of_lessEq (h : x.lessEq y = true) : x ≠ nan ∧ y ≠ nan := by
  obtain ⟨a, b, ha, hb, -⟩ := lessEq_eq_true_iff.mp h
  constructor
  · rintro rfl
    cases ha
  · rintro rfl
    cases hb

theorem not_less_of_lessEq (h : x.lessEq y = true) : ¬y.less x = true := by
  rw [less_eq_true_iff]
  obtain ⟨a, b, ha, hb, hle⟩ := lessEq_eq_true_iff.mp h
  rintro ⟨b', a', hb', ha', hlt⟩
  obtain rfl := Option.some.inj (ha.symm.trans ha')
  obtain rfl := Option.some.inj (hb.symm.trans hb')
  omega

theorem lessEq_of_not_less (hx : x ≠ nan) (hy : y ≠ nan) (h : ¬y.less x = true) :
    x.lessEq y = true := by
  obtain ⟨a, ha⟩ := exists_place?_eq hx
  obtain ⟨b, hb⟩ := exists_place?_eq hy
  rw [less_eq_true_iff] at h
  rw [lessEq_eq_true_iff]
  exact ⟨a, b, ha, hb, Int.not_lt.mp fun hlt => h ⟨b, a, hb, ha, hlt⟩⟩

theorem lessEq_trans {z : Binary64} (hxy : x.lessEq y = true) (hyz : y.lessEq z = true) :
    x.lessEq z = true := by
  obtain ⟨a, b, ha, hb, hab⟩ := lessEq_eq_true_iff.mp hxy
  obtain ⟨b', c, hb', hc, hbc⟩ := lessEq_eq_true_iff.mp hyz
  obtain rfl := Option.some.inj (hb.symm.trans hb')
  exact lessEq_eq_true_iff.mpr ⟨a, c, ha, hc, Int.le_trans hab hbc⟩

theorem lessEq_refl (h : x ≠ nan) : x.lessEq x = true := by
  obtain ⟨a, ha⟩ := exists_place?_eq h
  exact lessEq_eq_true_iff.mpr ⟨a, a, ha, ha, Int.le_refl a⟩

theorem isProbability_iff : x.isProbability = true ↔ x.IsShare := by
  simp only [isProbability, Bool.and_eq_true, lessEq_eq_true_iff, place?_zero, place?_one, IsShare]
  constructor
  · rintro ⟨⟨_, place, ⟨⟩, hplace, hlower⟩, ⟨_, _, hagain, ⟨⟩, hupper⟩⟩
    obtain rfl := Option.some.inj (hplace.symm.trans hagain)
    exact ⟨place, hplace, hlower, hupper⟩
  · rintro ⟨place, hplace, hlower, hupper⟩
    exact ⟨⟨0, place, rfl, hplace, hlower⟩, ⟨place, one, hplace, rfl, hupper⟩⟩

theorem isNonNegative_iff : x.isNonNegative = true ↔ x.IsAmount := by
  simp only [isNonNegative, Bool.and_eq_true, lessEq_eq_true_iff, place?_zero, IsAmount]
  constructor
  · rintro ⟨hfinite, _, place, ⟨⟩, hplace, hlower⟩
    exact ⟨hfinite, place, hplace, hlower⟩
  · rintro ⟨hfinite, place, hplace, hlower⟩
    exact ⟨hfinite, 0, place, rfl, hplace, hlower⟩

instance : DecidablePred IsShare := fun _ => decidable_of_iff _ isProbability_iff

instance : DecidablePred IsAmount := fun _ => decidable_of_iff _ isNonNegative_iff

/-- Not below zero, where not-a-number is not. -/
theorem less_zero_eq_false_iff :
    x.less 0 = false ↔ ∀ place, x.place? = some place → 0 ≤ place := by
  rw [Bool.eq_false_iff, ne_eq, less_eq_true_iff, place?_zero]
  constructor
  · intro h place hplace
    exact Int.not_lt.mp fun hbelow => h ⟨place, 0, hplace, rfl, hbelow⟩
  · rintro h ⟨place, _, hplace, ⟨⟩, hbelow⟩
    exact absurd (h place hplace) (Int.not_le.mpr hbelow)

/-- An amount is a finite number that is not below zero. -/
theorem isAmount_iff : x.IsAmount ↔ x.isFinite = true ∧ x.less 0 = false := by
  rw [less_zero_eq_false_iff, IsAmount]
  constructor
  · rintro ⟨hfinite, place, hplace, hlower⟩
    refine ⟨hfinite, fun other hother => ?_⟩
    obtain rfl := Option.some.inj (hplace.symm.trans hother)
    exact hlower
  · rintro ⟨hfinite, hlower⟩
    cases x with
    | finite negative magnitude => exact ⟨hfinite, _, rfl, hlower _ rfl⟩
    | nan | infinite _ => cases hfinite

end Binary64

end BattleItems
