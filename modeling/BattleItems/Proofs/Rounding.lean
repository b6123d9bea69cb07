import Mathlib.Tactic.Ring
import BattleItems.Proofs.Numbers

/-!
# BattleItems.Proofs.Rounding

What rounding to a double does to the order, and where it goes past the largest finite one.

A quotient is rounded to `k` at most if it is nearer to `k` than to `k + 1`, or halfway with `k`
even (`roundHalfEven_le_iff`). So rounding never turns two quotients around, on whole numbers and on
the grid (`roundToGrid_mono`), and it goes below an even grid point from the middle of the gap
before that point (`roundToGrid_lt_iff`). Of the first magnitude that is too large this makes the
threshold of overflow, in the middle between the largest finite double and `2¹⁰²⁴`: a product is
finite exactly if the exact product stays below it (`mul_isFinite_iff`). The sign of a product is
looked at apart from its size.
-/

namespace BattleItems

namespace Binary64

/-! ### Whole numbers -/

theorem div_le_roundHalfEven (num den : Nat) : num / den ≤ roundHalfEven num den := by
  simp only [roundHalfEven]
  split <;> omega

theorem roundHalfEven_le_iff {num den : Nat} (k : Nat) (hden : 0 < den) :
    roundHalfEven num den ≤ k ↔
      2 * num < (2 * k + 1) * den ∨ (2 * num = (2 * k + 1) * den ∧ k % 2 = 0) := by
  have hnum := Nat.div_add_mod num den
  have hrest := Nat.mod_lt num hden
  have hlower := div_le_roundHalfEven num den
  have hupper := roundHalfEven_le_succ num den
  rw [Nat.add_mul, Nat.mul_assoc, Nat.mul_comm k den, Nat.one_mul]
  rcases Nat.lt_trichotomy (num / den) k with hlt | heq | hgt
  · have hstep : den * (num / den) + den ≤ den * k := by
      rw [← Nat.mul_succ]
      exact Nat.mul_le_mul_left den hlt
    omega
  · subst heq
    simp only [roundHalfEven]
    split <;> omega
  · have hstep : den * k + den ≤ den * (num / den) := by
      rw [← Nat.mul_succ]
      exact Nat.mul_le_mul_left den hgt
    omega

/-- A quotient that is not less is not rounded to less. -/
theorem roundHalfEven_mono {num den num' den' : Nat} (hden : 0 < den) (hden' : 0 < den')
    (h : num * den' ≤ num' * den) : roundHalfEven num den ≤ roundHalfEven num' den' := by
  have hself := (roundHalfEven_le_iff (roundHalfEven num' den') hden').mp (Nat.le_refl _)
  generalize roundHalfEven num' den' = k at hself ⊢
  rw [roundHalfEven_le_iff k hden]
  have hcross : 2 * num * den' ≤ 2 * num' * den := by
    rw [Nat.mul_assoc, Nat.mul_assoc]
    exact Nat.mul_le_mul_left 2 h
  rcases hself with hbelow | ⟨hhalf, heven⟩
  · refine Or.inl (Nat.lt_of_mul_lt_mul_right (a := den') ?_)
    calc 2 * num * den' ≤ 2 * num' * den := hcross
      _ < (2 * k + 1) * den' * den := Nat.mul_lt_mul_of_pos_right hbelow hden
      _ = (2 * k + 1) * den * den' := Nat.mul_right_comm ..
  · have hle : 2 * num ≤ (2 * k + 1) * den := by
      refine Nat.le_of_mul_le_mul_right ?_ hden'
      calc 2 * num * den' ≤ 2 * num' * den := hcross
        _ = (2 * k + 1) * den * den' := by rw [hhalf, Nat.mul_right_comm]
    rcases Nat.lt_or_eq_of_le hle with hlt | heq
    · exact Or.inl hlt
    · exact Or.inr ⟨heq, heven⟩

/-! ### The grid -/

theorem gridShift_le_iff {n s : Nat} : gridShift n ≤ s ↔ n < 2 ^ (s + 53) := by
  rcases Nat.eq_zero_or_pos n with rfl | hpos
  · simp only [gridShift, Nat.log2_zero, Nat.zero_sub, Nat.zero_le, Nat.two_pow_pos]
  · rw [← Nat.log2_lt (Nat.ne_of_gt hpos), gridShift]
    omega

theorem gridShift_mono {m n : Nat} (h : m ≤ n) : gridShift m ≤ gridShift n :=
  gridShift_le_iff.mpr (Nat.lt_of_le_of_lt h (gridShift_le_iff.mp (Nat.le_refl _)))

/-- Below `2 ^ (s + 53)`, rounding does not go past it. -/
theorem roundToGrid_le_of_gridShift_le {num den s : Nat} (hs : gridShift (num / den) ≤ s) :
    roundToGrid num den ≤ 2 ^ (s + 53) := by
  simp only [roundToGrid, Nat.pow_eq]
  have hbelow := gridShift_le_iff.mp (Nat.le_refl (gridShift (num / den)))
  generalize gridShift (num / den) = t at *
  have hsignificand : roundHalfEven num (den * 2 ^ t) ≤ 2 ^ 53 := by
    refine Nat.le_trans (roundHalfEven_le_succ _ _) ?_
    rw [← Nat.div_div_eq_div_mul]
    exact (Nat.div_lt_iff_lt_mul (Nat.two_pow_pos t)).mpr (by rwa [← Nat.pow_add, Nat.add_comm])
  calc roundHalfEven num (den * 2 ^ t) * 2 ^ t
      ≤ 2 ^ 53 * 2 ^ s := Nat.mul_le_mul hsignificand (Nat.pow_le_pow_right (by decide) hs)
    _ = 2 ^ (s + 53) := by rw [← Nat.pow_add, Nat.add_comm]

/-- From `2 ^ (s + 53)` on, rounding does not go below it. -/
theorem le_roundToGrid_of_lt_gridShift {num den s : Nat} (hs : s < gridShift (num / den)) :
    2 ^ (s + 53) ≤ roundToGrid num den := by
  simp only [roundToGrid, Nat.pow_eq]
  have habove : 2 ^ (gridShift (num / den) - 1 + 53) ≤ num / den :=
    Nat.le_of_not_lt fun hbelow => by
      have := gridShift_le_iff.mpr hbelow
      omega
  generalize gridShift (num / den) = t at *
  have hsignificand : 2 ^ 52 ≤ roundHalfEven num (den * 2 ^ t) := by
    refine Nat.le_trans ?_ (div_le_roundHalfEven _ _)
    rw [← Nat.div_div_eq_div_mul, Nat.le_div_iff_mul_le (Nat.two_pow_pos t), ← Nat.pow_add]
    rwa [show 52 + t = t - 1 + 53 by omega]
  calc 2 ^ (s + 53) = 2 ^ 52 * 2 ^ (s + 1) := by rw [← Nat.pow_add, Nat.add_comm 52, Nat.add_assoc]
    _ ≤ roundHalfEven num (den * 2 ^ t) * 2 ^ t :=
        Nat.mul_le_mul hsignificand (Nat.pow_le_pow_right (by decide) hs)

theorem roundToGrid_zero {den : Nat} (hden : 0 < den) : roundToGrid 0 den = 0 := by
  simp only [roundToGrid, Nat.pow_eq]
  have hzero : roundHalfEven 0 (den * 2 ^ gridShift (0 / den)) ≤ 0 :=
    (roundHalfEven_le_iff 0 (Nat.mul_pos hden (Nat.two_pow_pos _))).mpr
      (Or.inl (Nat.mul_pos Nat.one_pos (Nat.mul_pos hden (Nat.two_pow_pos _))))
  rw [Nat.le_zero.mp hzero, Nat.zero_mul]

/-- Nor does the grid turn two quotients around. -/
theorem roundToGrid_mono {num den num' den' : Nat} (hden : 0 < den) (hden' : 0 < den')
    (h : num * den' ≤ num' * den) : roundToGrid num den ≤ roundToGrid num' den' := by
  have hquotient : num / den ≤ num' / den' := by
    rw [Nat.le_div_iff_mul_le hden']
    refine Nat.le_of_mul_le_mul_right ?_ hden
    calc num / den * den' * den = num / den * den * den' := Nat.mul_right_comm ..
      _ ≤ num * den' := Nat.mul_le_mul_right _ (Nat.div_mul_le_self num den)
      _ ≤ num' * den := h
  rcases Nat.lt_or_eq_of_le (gridShift_mono hquotient) with hlt | heq
  · exact Nat.le_trans (roundToGrid_le_of_gridShift_le (Nat.le_refl _))
      (le_roundToGrid_of_lt_gridShift hlt)
  · simp only [roundToGrid, heq]
    have hspacing : 0 < Nat.pow 2 (gridShift (num' / den')) := Nat.two_pow_pos _
    refine Nat.mul_le_mul_right _ (roundHalfEven_mono (Nat.mul_pos hden hspacing)
      (Nat.mul_pos hden' hspacing) ?_)
    rw [← Nat.mul_assoc, ← Nat.mul_assoc]
    exact Nat.mul_le_mul_right _ h

/-- A quotient rounds to less than an even grid point unless it reaches the middle between that
point and the one before it. -/
theorem roundToGrid_lt_iff {num den m t : Nat} (hden : 0 < den)
    (hpoint : gridShift (m * 2 ^ t - 1) = t) (hm : 0 < m) (heven : m % 2 = 0) :
    roundToGrid num den < m * 2 ^ t ↔ 2 * num < (2 * m - 1) * 2 ^ t * den := by
  have hbefore := gridShift_le_iff.mp (Nat.le_of_eq hpoint)
  rcases Nat.lt_trichotomy (gridShift (num / den)) t with hlt | heq | hgt
  · -- The quotient lies where the grid is finer, below half of the power that `m * 2 ^ t` exceeds.
    have hround := roundToGrid_le_of_gridShift_le (Nat.le_sub_one_of_lt hlt)
    have hquotient := gridShift_le_iff.mp (Nat.le_sub_one_of_lt hlt)
    have habove : 2 ^ (t - 1 + 53) ≤ m * 2 ^ t - 1 := Nat.le_of_not_lt fun hbelow => by
      have := gridShift_le_iff.mpr hbelow
      omega
    have hpower : (2 : Nat) ^ (t - 1 + 53) = 2 ^ 52 * 2 ^ t := by
      rw [← Nat.pow_add, show 52 + t = t - 1 + 53 by omega]
    rw [Nat.div_lt_iff_lt_mul hden] at hquotient
    rw [hpower] at hround hquotient habove
    have hpos := Nat.two_pow_pos t
    have hlarge : 2 ^ 52 < m := Nat.lt_of_mul_lt_mul_right (a := 2 ^ t) (by omega)
    constructor
    · intro _
      calc 2 * num < 2 * (2 ^ 52 * 2 ^ t * den) := Nat.mul_lt_mul_of_pos_left hquotient (by decide)
        _ = 2 ^ 53 * 2 ^ t * den := by ring
        _ ≤ (2 * m - 1) * 2 ^ t * den :=
            Nat.mul_le_mul_right _ (Nat.mul_le_mul_right _ (by omega))
    · intro _
      omega
  · -- The spacing is the one below the point, and the multiple before an even one is odd.
    have hbelow : roundHalfEven num (den * 2 ^ t) ≤ m - 1 ↔
        2 * num < (2 * m - 1) * (den * 2 ^ t) := by
      rw [roundHalfEven_le_iff _ (Nat.mul_pos hden (Nat.two_pow_pos t)),
        show 2 * (m - 1) + 1 = 2 * m - 1 by omega]
      omega
    simp only [roundToGrid, heq, Nat.pow_eq]
    rw [Nat.mul_lt_mul_right (Nat.two_pow_pos t), Nat.mul_assoc, Nat.mul_comm _ den, ← hbelow]
    omega
  · -- The quotient has reached the point.
    have hround := le_roundToGrid_of_lt_gridShift hgt
    have hquotient : 2 ^ (t + 53) ≤ num / den :=
      Nat.le_of_not_lt fun hbelow => Nat.not_lt.mpr (gridShift_le_iff.mpr hbelow) hgt
    have hreached : m * 2 ^ t * den ≤ num := by
      rw [← Nat.le_div_iff_mul_le hden]
      omega
    constructor
    · intro h
      omega
    · intro h
      refine absurd h (Nat.not_lt.mpr ?_)
      calc (2 * m - 1) * 2 ^ t * den ≤ 2 * m * 2 ^ t * den :=
            Nat.mul_le_mul_right _ (Nat.mul_le_mul_right _ (Nat.sub_le _ _))
        _ = 2 * (m * 2 ^ t * den) := by ring
        _ ≤ 2 * num := Nat.mul_le_mul_left 2 hreached

/-- A quotient rounds to a number below a power of two unless it reaches the middle between that
power and the grid point before it. -/
theorem roundToGrid_lt_two_pow_iff {num den k e : Nat} (he : e = k + 54) (hden : 0 < den) :
    roundToGrid num den < Nat.pow 2 e ↔ num < (Nat.pow 2 54 - 1) * Nat.pow 2 k * den := by
  subst he
  simp only [Nat.pow_eq]
  have hpower : (2 : Nat) ^ (k + 54) = 2 ^ 53 * 2 ^ (k + 1) := by ring
  -- The last magnitude before the power lies in the order of magnitude below it.
  have hpoint : gridShift (2 ^ 53 * 2 ^ (k + 1) - 1) = k + 1 := by
    have hhalf : (2 : Nat) ^ (k + 54) = 2 * 2 ^ (k + 53) := by ring
    have hpos := Nat.two_pow_pos (k + 53)
    rw [← hpower]
    apply Nat.le_antisymm
    · apply gridShift_le_iff.mpr
      rw [show k + 1 + 53 = k + 54 by omega]
      omega
    · apply Nat.lt_of_not_le
      intro hle
      have hbelow := gridShift_le_iff.mp hle
      omega
  have hmiddle : (2 * 2 ^ 53 - 1) * 2 ^ (k + 1) * den = 2 * ((2 ^ 54 - 1) * 2 ^ k * den) := by
    ring
  rw [hpower, roundToGrid_lt_iff hden hpoint (by decide) (by decide), hmiddle]
  omega

/-! ### Overflow -/

theorem two_pow_le_one : 2 ^ 105 ≤ one := by decide +kernel

theorem one_pos : 0 < one := Nat.lt_of_lt_of_le (Nat.two_pow_pos 105) two_pow_le_one

theorem mul_two_pow_lt {n k s e : Nat} (hn : n ≤ 2 ^ k) (h : k + s < e) :
    n * Nat.pow 2 s < Nat.pow 2 e := by
  simp only [Nat.pow_eq]
  calc n * 2 ^ s ≤ 2 ^ k * 2 ^ s := Nat.mul_le_mul_right _ hn
    _ = 2 ^ (k + s) := (Nat.pow_add ..).symm
    _ < 2 ^ e := Nat.pow_lt_pow_right (by decide) h

/-- The whole numbers that a significand holds are far from the largest magnitude. -/
theorem mul_one_lt_overflow {n : Nat} (h : n ≤ 2 ^ 53) : n * one < overflow := by
  unfold one overflow
  apply mul_two_pow_lt h
  decide

theorem overflow_pos : 0 < overflow :=
  Nat.lt_of_le_of_lt (Nat.zero_le _) (mul_one_lt_overflow (Nat.zero_le _))

/-- The middle between the largest finite magnitude and the first that is too large:
`2¹⁰²⁴ - 2⁹⁷⁰`, in units. -/
def roundingLimit : Nat := (Nat.pow 2 54 - 1) * Nat.pow 2 2044

theorem roundToGrid_lt_overflow_iff {num den : Nat} (hden : 0 < den) :
    roundToGrid num den < overflow ↔ num < roundingLimit * den := by
  unfold overflow roundingLimit
  apply roundToGrid_lt_two_pow_iff (by rfl) hden

theorem ofUnits_isFinite_iff {negative : Bool} {num den : Nat} (hden : 0 < den) :
    (ofUnits negative num den).isFinite = true ↔ num < roundingLimit * den := by
  rw [← roundToGrid_lt_overflow_iff hden]
  unfold ofUnits nearest?
  by_cases hfits : roundToGrid num den < overflow
  · simp only [hfits, dif_pos, isFinite]
  · simp only [hfits, dif_neg, isFinite, not_false_eq_true, Bool.false_eq_true]

/-- The magnitude of a finite number, in units. -/
def units? : Binary64 → Option Nat
  | finite _ magnitude => some magnitude.units
  | _ => none

/-- The exact product of two finite numbers is too small to round past the largest one. -/
def ProductFits (x y : Binary64) : Prop :=
  ∃ m n, x.units? = some m ∧ y.units? = some n ∧ m * n < roundingLimit * one

/-- A product is finite exactly if its numbers are and their exact product does not overflow. -/
theorem mul_isFinite_iff {x y : Binary64} : (x * y).isFinite = true ↔ x.ProductFits y := by
  change (Binary64.mul x y).isFinite = true ↔ _
  match x, y with
  | nan, _ | infinite _, nan | finite _ _, nan | infinite _, infinite _ =>
      simp [Binary64.mul, isFinite, ProductFits, units?]
  | infinite _, finite _ _ | finite _ _, infinite _ =>
      simp only [Binary64.mul, ProductFits, units?]
      split <;> simp [isFinite]
  | finite _ _, finite _ _ =>
      simp [Binary64.mul, ProductFits, units?, ofUnits_isFinite_iff one_pos]

theorem ProductFits.isFinite {x y : Binary64} (h : x.ProductFits y) : x.isFinite = true := by
  obtain ⟨m, _, hx, -⟩ := h
  cases x with
  | finite _ _ => rfl
  | nan | infinite _ => cases hx

/-! ### Signs -/

theorem less_zero_finite {negative : Bool} {magnitude : Magnitude} :
    (finite negative magnitude).less 0 = false ↔ (negative = true → magnitude.units = 0) := by
  rw [less_zero_eq_false_iff]
  cases negative <;> simp [place?]

theorem less_zero_nan : nan.less 0 = false := rfl

theorem less_zero_infinite (negative : Bool) : (infinite negative).less 0 = negative := by
  cases negative with
  | false =>
      rw [less_zero_eq_false_iff]
      rintro _ ⟨⟩
      exact Int.natCast_nonneg overflow
  | true =>
      have hpos := overflow_pos
      exact less_eq_true_iff.mpr ⟨-overflow, 0, rfl, place?_zero, by omega⟩

/-- Only a zero is rounded under a negative sign. -/
theorem less_zero_ofUnits {negative : Bool} {num den : Nat} (hden : 0 < den)
    (hsign : negative = true → num = 0) : (ofUnits negative num den).less 0 = false := by
  have hzero : negative = true → roundToGrid num den = 0 := fun hnegative => by
    rw [hsign hnegative, roundToGrid_zero hden]
  unfold ofUnits nearest?
  by_cases hfits : roundToGrid num den < overflow
  · simp only [hfits, dif_pos]
    exact less_zero_finite.mpr hzero
  · simp only [hfits, dif_neg, not_false_eq_true, less_zero_infinite]
    exact Bool.eq_false_iff.mpr fun hnegative => hfits (hzero hnegative ▸ overflow_pos)

/-- An amount times what is not below zero is not below zero. -/
theorem less_zero_mul {x y : Binary64} (hx : x.less 0 = false) (hy : y.IsAmount) :
    (x * y).less 0 = false := by
  change (Binary64.mul x y).less 0 = false
  obtain ⟨hfinite, hsign⟩ := isAmount_iff.mp hy
  cases y with
  | nan | infinite _ => cases hfinite
  | finite b n =>
      rw [less_zero_finite] at hsign
      cases x with
      | nan => exact less_zero_nan
      | infinite a =>
          rw [less_zero_infinite] at hx
          simp only [Binary64.mul]
          split
          · exact less_zero_nan
          · rename_i hne
            rw [less_zero_infinite, hx, Bool.false_bne, Bool.eq_false_iff]
            exact fun hb => hne (hsign hb)
      | finite a m =>
          rw [less_zero_finite] at hx
          simp only [Binary64.mul]
          refine less_zero_ofUnits one_pos fun hdiffer => ?_
          -- Of two different signs one is negative, and what it stands before is zero.
          have hzero : m.units = 0 ∨ n.units = 0 := by
            cases a with
            | true => exact Or.inl (hx rfl)
            | false => exact Or.inr (hsign (by simpa only [Bool.false_bne] using hdiffer))
          exact Nat.mul_eq_zero.mpr hzero

end Binary64

end BattleItems
