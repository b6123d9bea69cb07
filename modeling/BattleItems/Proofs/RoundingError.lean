import Mathlib.Tactic.GCongr
import Mathlib.Tactic.Ring
import BattleItems.Proofs.Rounding

/-!
# BattleItems.Proofs.RoundingError

How far a rounded number lies from the exact one.

Rounding depends on a quotient alone, not on how it is written (`roundToGrid_eq_of_ratio`), and it
keeps what is on the grid already (`roundToGrid_of_onGrid`). Everything else moves by half the
spacing of the grid at most. Away from the smallest magnitudes this is one part in `2⁵³` of the
number itself; errors of this kind multiply when a rounded number is scaled and rounded again
(`roundToGrid_scaled_le`, `le_roundToGrid_scaled`). Quotients of whole numbers are large enough for
this, and it is said of them in whole numbers (`whole_le_of_le_scaled`, `le_whole_of_scaled_le`).
The error of one rounding is smaller than their distance from the next whole number above, and so it
does not show when the quotient is rounded down (`roundToGrid_div_one`).

What the operations on numbers make of this is said in the units of the numbers (`IsUnits`), and
what is left of a result in a word by `toNat_floorWord_ofUnits`.
-/

namespace BattleItems

namespace Binary64

variable {num den : Nat}

/-! ### The quotient alone -/

theorem roundHalfEven_mul_left {c : Nat} (hc : 0 < c) (num den : Nat) :
    roundHalfEven (c * num) (c * den) = roundHalfEven num den := by
  simp only [roundHalfEven, Nat.mul_div_mul_left _ _ hc, Nat.mul_mod_mul_left,
    Nat.mul_left_comm 2 c, Nat.mul_lt_mul_left hc, Nat.mul_right_inj (Nat.ne_of_gt hc)]

theorem roundToGrid_mul_left {c : Nat} (hc : 0 < c) (num den : Nat) :
    roundToGrid (c * num) (c * den) = roundToGrid num den := by
  simp only [roundToGrid, Nat.mul_div_mul_left _ _ hc, Nat.mul_assoc, roundHalfEven_mul_left hc]

/-- Equal quotients are rounded alike. -/
theorem roundToGrid_eq_of_ratio {num' den' : Nat} (hden : 0 < den) (hden' : 0 < den')
    (h : num * den' = num' * den) : roundToGrid num den = roundToGrid num' den' := by
  calc roundToGrid num den
      = roundToGrid (den' * num) (den' * den) := (roundToGrid_mul_left hden' num den).symm
    _ = roundToGrid (den * num') (den * den') := by
        rw [Nat.mul_comm den' num, h, Nat.mul_comm num' den, Nat.mul_comm den' den]
    _ = roundToGrid num' den' := roundToGrid_mul_left hden num' den'

theorem roundToGrid_of_onGrid {n : Nat} (h : OnGrid n) : roundToGrid n 1 = n := by
  simp only [OnGrid] at h
  simp only [roundToGrid, Nat.div_one, Nat.one_mul]
  have hspacing : 0 < Nat.pow 2 (gridShift n) := Nat.two_pow_pos _
  have hexact : roundHalfEven n (Nat.pow 2 (gridShift n)) = n / Nat.pow 2 (gridShift n) := by
    simp only [roundHalfEven, Nat.mod_eq_zero_of_dvd h, Nat.mul_zero, hspacing, true_or, if_true]
  rw [hexact, Nat.div_mul_cancel h]

theorem le_roundToGrid_of_onGrid {n : Nat} (hgrid : OnGrid n) (hden : 0 < den)
    (h : n * den ≤ num) : n ≤ roundToGrid num den := by
  calc n = roundToGrid n 1 := (roundToGrid_of_onGrid hgrid).symm
    _ ≤ roundToGrid num den := roundToGrid_mono Nat.one_pos hden (by rwa [Nat.mul_one])

theorem onGrid_mul_one {n : Nat} (h : n ≤ 2 ^ 53) : OnGrid (n * one) := by
  unfold one
  apply onGrid_mul_two_pow _ h

/-! ### One rounding -/

theorem roundHalfEven_mul_le (num : Nat) (hden : 0 < den) :
    2 * (roundHalfEven num den * den) ≤ 2 * num + den := by
  have hnum := Nat.div_add_mod num den
  have hrest := Nat.mod_lt num hden
  rw [Nat.mul_comm] at hnum
  simp only [roundHalfEven]
  split
  · omega
  · rw [Nat.add_mul]
    omega

theorem le_roundHalfEven_mul (num : Nat) (hden : 0 < den) :
    2 * num ≤ 2 * (roundHalfEven num den * den) + den := by
  have hnum := Nat.div_add_mod num den
  have hrest := Nat.mod_lt num hden
  rw [Nat.mul_comm] at hnum
  simp only [roundHalfEven]
  split
  · omega
  · rw [Nat.add_mul]
    omega

/-- From `2⁵²` on, the spacing of the grid is at most one part in `2⁵²` of a number. -/
theorem spacing_mul_le {n : Nat} (h : 2 ^ 52 ≤ n) : 2 ^ gridShift n * 2 ^ 52 ≤ n := by
  have hpos : n ≠ 0 := by
    rintro rfl
    cases h
  have hlog : 52 ≤ n.log2 := (Nat.le_log2 hpos).mpr h
  rw [← Nat.pow_add, gridShift, Nat.sub_add_cancel hlog]
  exact Nat.log2_self_le hpos

section Normal

variable (hnormal : 2 ^ 52 ≤ num / den)
include hnormal

theorem den_mul_spacing_le : 2 ^ 52 * (den * 2 ^ gridShift (num / den)) ≤ num := by
  calc 2 ^ 52 * (den * 2 ^ gridShift (num / den))
      = den * (2 ^ gridShift (num / den) * 2 ^ 52) := by
        rw [Nat.mul_left_comm, Nat.mul_comm (2 ^ 52)]
    _ ≤ den * (num / den) := Nat.mul_le_mul_left _ (spacing_mul_le hnormal)
    _ ≤ num := Nat.mul_div_le num den

theorem two_pow_le_roundToGrid : 2 ^ 52 ≤ roundToGrid num den := by
  have hspacing := spacing_mul_le hnormal
  have hpos := Nat.two_pow_pos (gridShift (num / den))
  simp only [roundToGrid, Nat.pow_eq]
  generalize 2 ^ gridShift (num / den) = spacing at *
  calc 2 ^ 52 ≤ num / (den * spacing) := by
        rw [← Nat.div_div_eq_div_mul, Nat.le_div_iff_mul_le hpos, Nat.mul_comm]
        exact hspacing
    _ ≤ roundHalfEven num (den * spacing) := div_le_roundHalfEven _ _
    _ ≤ roundHalfEven num (den * spacing) * spacing := Nat.le_mul_of_pos_right _ hpos

theorem scaled_isNormal {c : Nat} (hc : 0 < c) : 2 ^ 52 ≤ c * roundToGrid num den / 1 := by
  rw [Nat.div_one]
  exact Nat.le_trans (two_pow_le_roundToGrid hnormal) (Nat.le_mul_of_pos_left _ hc)

variable (hden : 0 < den)
include hden

theorem roundToGrid_mul_le : 2 ^ 53 * (roundToGrid num den * den) ≤ (2 ^ 53 + 1) * num := by
  have hspacing := den_mul_spacing_le hnormal
  have hround := roundHalfEven_mul_le num
    (Nat.mul_pos hden (Nat.two_pow_pos (gridShift (num / den))))
  simp only [roundToGrid, Nat.pow_eq]
  generalize 2 ^ gridShift (num / den) = spacing at *
  rw [Nat.mul_assoc, Nat.mul_comm spacing den]
  omega

theorem le_roundToGrid_mul : (2 ^ 53 - 1) * num ≤ 2 ^ 53 * (roundToGrid num den * den) := by
  have hspacing := den_mul_spacing_le hnormal
  have hround := le_roundHalfEven_mul num
    (Nat.mul_pos hden (Nat.two_pow_pos (gridShift (num / den))))
  simp only [roundToGrid, Nat.pow_eq]
  generalize 2 ^ gridShift (num / den) = spacing at *
  rw [Nat.mul_assoc, Nat.mul_comm spacing den]
  omega

/-! ### A rounded number scaled and rounded again -/

variable {c : Nat} (hc : 0 < c)
include hc

theorem roundToGrid_scaled_le :
    2 ^ 106 * (roundToGrid (c * roundToGrid num den) 1 * den) ≤ (2 ^ 53 + 1) ^ 2 * (c * num) := by
  have hinner := roundToGrid_mul_le hnormal hden
  have houter := roundToGrid_mul_le (scaled_isNormal hnormal hc) Nat.one_pos
  generalize roundToGrid num den = inner at *
  generalize roundToGrid (c * inner) 1 = outer at *
  rw [Nat.mul_one] at houter
  calc 2 ^ 106 * (outer * den)
      = 2 ^ 53 * (2 ^ 53 * outer * den) := by ring
    _ ≤ 2 ^ 53 * ((2 ^ 53 + 1) * (c * inner) * den) := by gcongr
    _ = (2 ^ 53 + 1) * c * (2 ^ 53 * (inner * den)) := by ring
    _ ≤ (2 ^ 53 + 1) * c * ((2 ^ 53 + 1) * num) := by gcongr
    _ = (2 ^ 53 + 1) ^ 2 * (c * num) := by ring

theorem le_roundToGrid_scaled :
    (2 ^ 53 - 1) ^ 2 * (c * num) ≤ 2 ^ 106 * (roundToGrid (c * roundToGrid num den) 1 * den) := by
  have hinner := le_roundToGrid_mul hnormal hden
  have houter := le_roundToGrid_mul (scaled_isNormal hnormal hc) Nat.one_pos
  generalize roundToGrid num den = inner at *
  generalize roundToGrid (c * inner) 1 = outer at *
  rw [Nat.mul_one] at houter
  calc (2 ^ 53 - 1) ^ 2 * (c * num)
      = (2 ^ 53 - 1) * c * ((2 ^ 53 - 1) * num) := by ring
    _ ≤ (2 ^ 53 - 1) * c * (2 ^ 53 * (inner * den)) := by gcongr
    _ = 2 ^ 53 * ((2 ^ 53 - 1) * (c * inner) * den) := by ring
    _ ≤ 2 ^ 53 * (2 ^ 53 * outer * den) := by gcongr
    _ = 2 ^ 106 * (outer * den) := by ring

end Normal

/-! ### Quotients of whole numbers -/

section Whole

variable {n c q : Nat} (hn : 0 < n) (hden : 0 < den) (hsmall : den ≤ 2 ^ 53)
include hn hden hsmall

/-- The quotient is so large in units that rounding keeps 53 bits of it. -/
theorem quotient_isNormal : 2 ^ 52 ≤ n * one / den := by
  rw [Nat.le_div_iff_mul_le hden]
  calc 2 ^ 52 * den ≤ 2 ^ 52 * 2 ^ 53 := Nat.mul_le_mul_left _ hsmall
    _ ≤ one := two_pow_le_one
    _ ≤ n * one := Nat.le_mul_of_pos_left one hn

variable (hc : 0 < c)
include hc

/-- A scaled quotient that reaches a whole number after two roundings is not far below it. -/
theorem whole_le_of_le_scaled (h : q * one ≤ roundToGrid (c * roundToGrid (n * one) den) 1) :
    2 ^ 106 * (q * den) ≤ (2 ^ 53 + 1) ^ 2 * (c * n) := by
  have herror := roundToGrid_scaled_le (quotient_isNormal hn hden hsmall) hden hc
  refine Nat.le_of_mul_le_mul_right ?_ one_pos
  calc 2 ^ 106 * (q * den) * one = 2 ^ 106 * (q * one * den) := by ring
    _ ≤ 2 ^ 106 * (roundToGrid (c * roundToGrid (n * one) den) 1 * den) := by gcongr
    _ ≤ (2 ^ 53 + 1) ^ 2 * (c * (n * one)) := herror
    _ = (2 ^ 53 + 1) ^ 2 * (c * n) * one := by ring

/-- One that does not exceed a whole number after two roundings is not far above it. -/
theorem le_whole_of_scaled_le (h : roundToGrid (c * roundToGrid (n * one) den) 1 ≤ q * one) :
    (2 ^ 53 - 1) ^ 2 * (c * n) ≤ 2 ^ 106 * (q * den) := by
  have herror := le_roundToGrid_scaled (quotient_isNormal hn hden hsmall) hden hc
  refine Nat.le_of_mul_le_mul_right ?_ one_pos
  calc (2 ^ 53 - 1) ^ 2 * (c * n) * one = (2 ^ 53 - 1) ^ 2 * (c * (n * one)) := by ring
    _ ≤ 2 ^ 106 * (roundToGrid (c * roundToGrid (n * one) den) 1 * den) := herror
    _ ≤ 2 ^ 106 * (q * one * den) := by gcongr
    _ = 2 ^ 106 * (q * den) * one := by ring

end Whole

/-- The quotient of two whole numbers is rounded to no other whole number: rounded down, it is the
quotient of the whole numbers. -/
theorem roundToGrid_div_one {n : Nat} (hn : n < 2 ^ 53) (hden : 0 < den) (hsmall : den ≤ 2 ^ 53) :
    roundToGrid (n * one) den / one = n / den := by
  rcases Nat.eq_zero_or_pos n with rfl | hpos
  · rw [Nat.zero_mul, roundToGrid_zero hden, Nat.zero_div, Nat.zero_div]
  apply Nat.le_antisymm
  · -- The next whole number is further away than the error goes.
    apply Nat.le_of_lt_succ
    rw [Nat.div_lt_iff_lt_mul one_pos]
    apply Nat.lt_of_not_le
    intro hreached
    have herror := roundToGrid_mul_le (quotient_isNormal hpos hden hsmall) hden
    have hnext : n + 1 ≤ (n / den + 1) * den := by
      rw [Nat.mul_comm]
      exact Nat.lt_mul_div_succ n hden
    have hwhole : 2 ^ 53 * (n + 1) ≤ (2 ^ 53 + 1) * n := by
      refine Nat.le_of_mul_le_mul_right ?_ one_pos
      calc 2 ^ 53 * (n + 1) * one ≤ 2 ^ 53 * ((n / den + 1) * den) * one := by gcongr
        _ = 2 ^ 53 * ((n / den + 1) * one * den) := by ring
        _ ≤ 2 ^ 53 * (roundToGrid (n * one) den * den) := by gcongr
        _ ≤ (2 ^ 53 + 1) * (n * one) := herror
        _ = (2 ^ 53 + 1) * n * one := by ring
    omega
  · rw [Nat.le_div_iff_mul_le one_pos]
    have hwhole : n / den ≤ 2 ^ 53 := Nat.le_trans (Nat.div_le_self n den) (Nat.le_of_lt hn)
    apply le_roundToGrid_of_onGrid (onGrid_mul_one hwhole) hden
    calc n / den * one * den = n / den * den * one := by ring
      _ ≤ n * one := Nat.mul_le_mul_right one (Nat.div_mul_le_self n den)

/-- What is rounded to less than a whole number does not reach the middle of the gap that the grid
has below that number. -/
theorem roundToGrid_lt_mul_one_iff {n : Nat} (hden : 0 < den) (hpos : 0 < n) (hsmall : n ≤ 2 ^ 52) :
    roundToGrid num den < n * one ↔
      2 * num < (2 * (n * one) - 2 ^ gridShift (n * one - 1)) * den := by
  have hfine : gridShift (n * one - 1) ≤ 1073 := by
    apply gridShift_le_iff.mpr
    calc n * one - 1 < n * one := Nat.sub_one_lt (Nat.ne_of_gt (Nat.mul_pos hpos one_pos))
      _ ≤ 2 ^ 52 * one := Nat.mul_le_mul_right one hsmall
      _ ≤ 2 ^ (1073 + 53) := by decide +kernel
  generalize hshift : gridShift (n * one - 1) = shift at hfine ⊢
  -- The whole numbers are even multiples of the spacing below them.
  have hone : one = 2 * 2 ^ (1073 - shift) * 2 ^ shift := by
    rw [Nat.mul_assoc, ← Nat.pow_add, Nat.sub_add_cancel hfine]
    decide +kernel
  have hpoint : n * one = n * (2 * 2 ^ (1073 - shift)) * 2 ^ shift := by
    rw [Nat.mul_assoc, ← hone]
  have heven : n * (2 * 2 ^ (1073 - shift)) % 2 = 0 := by
    rw [Nat.mul_left_comm, Nat.mul_mod_right]
  rw [hpoint] at hshift ⊢
  rw [roundToGrid_lt_iff hden hshift
    (Nat.mul_pos hpos (Nat.mul_pos Nat.two_pos (Nat.two_pow_pos _))) heven, Nat.sub_mul,
    Nat.one_mul, Nat.mul_assoc 2]

/-! ### Numbers of so many units -/

/-- The finite number of this many units, with no negative sign. -/
def IsUnits (x : Binary64) (units : Nat) : Prop :=
  ∃ magnitude, x = finite false magnitude ∧ magnitude.units = units

variable {x y : Binary64} {a b : Nat}

theorem IsUnits.place? (h : x.IsUnits a) : x.place? = some (a : Int) := by
  obtain ⟨magnitude, rfl, rfl⟩ := h
  rfl

theorem isUnits_ofUnits (hfits : roundToGrid num den < overflow) :
    (ofUnits false num den).IsUnits (roundToGrid num den) := by
  unfold ofUnits nearest?
  simp only [hfits, dif_pos]
  exact ⟨_, rfl, rfl⟩

theorem ofUnits_of_overflow_le (negative : Bool) (h : overflow ≤ roundToGrid num den) :
    ofUnits negative num den = infinite negative := by
  unfold ofUnits nearest?
  simp only [Nat.not_lt.mpr h, dif_neg, not_false_eq_true]

theorem isUnits_ofNat (h : a ≤ 2 ^ 53) : (ofNat a).IsUnits (a * one) := by
  have hexact : roundToGrid (a * one) 1 = a * one := roundToGrid_of_onGrid (onGrid_mul_one h)
  have hfits : roundToGrid (a * one) 1 < overflow := by
    rw [hexact]
    exact mul_one_lt_overflow h
  have hunits := isUnits_ofUnits hfits
  rwa [hexact] at hunits

/-- The quotient may be past the largest number. -/
theorem IsUnits.div_eq (hx : x.IsUnits a) (hy : y.IsUnits b) (hb : 0 < b) :
    x / y = ofUnits false (a * one) b := by
  obtain ⟨m, rfl, rfl⟩ := hx
  obtain ⟨n, rfl, rfl⟩ := hy
  change Binary64.div _ _ = _
  simp only [Binary64.div, Nat.ne_of_gt hb, if_false, bne_self_eq_false]

theorem IsUnits.div (hx : x.IsUnits a) (hy : y.IsUnits b) (hb : 0 < b)
    (hfits : roundToGrid (a * one) b < overflow) :
    (x / y).IsUnits (roundToGrid (a * one) b) := by
  rw [hx.div_eq hy hb]
  exact isUnits_ofUnits hfits

theorem IsUnits.infinite_div (hy : y.IsUnits b) (negative : Bool) :
    infinite negative / y = infinite negative := by
  obtain ⟨n, rfl, -⟩ := hy
  change Binary64.div _ _ = _
  simp only [Binary64.div, Bool.bne_false]

/-- So may the product. -/
theorem IsUnits.mul_eq (hx : x.IsUnits a) (hy : y.IsUnits b) :
    x * y = ofUnits false (a * b) one := by
  obtain ⟨m, rfl, rfl⟩ := hx
  obtain ⟨n, rfl, rfl⟩ := hy
  change Binary64.mul _ _ = _
  simp only [Binary64.mul, bne_self_eq_false]

theorem IsUnits.mul (hx : x.IsUnits a) (hy : y.IsUnits b)
    (hfits : roundToGrid (a * b) one < overflow) : (x * y).IsUnits (roundToGrid (a * b) one) := by
  rw [hx.mul_eq hy]
  exact isUnits_ofUnits hfits

theorem IsUnits.add (hx : x.IsUnits a) (hy : y.IsUnits b)
    (hfits : roundToGrid (a + b) 1 < overflow) : (x + y).IsUnits (roundToGrid (a + b) 1) := by
  obtain ⟨m, rfl, rfl⟩ := hx
  obtain ⟨n, rfl, rfl⟩ := hy
  have hunits := isUnits_ofUnits hfits
  change (Binary64.add _ _).IsUnits _
  simpa only [Binary64.add, if_true] using hunits

theorem IsUnits.lessEq_iff (hx : x.IsUnits a) (hy : y.IsUnits b) : x.lessEq y = true ↔ a ≤ b := by
  simp only [lessEq, hx.place?, hy.place?, decide_eq_true_eq, Int.ofNat_le]

theorem IsUnits.less_iff (hx : x.IsUnits a) (hy : y.IsUnits b) : x.less y = true ↔ a < b := by
  simp only [less, hx.place?, hy.place?, decide_eq_true_eq, Int.ofNat_lt]

theorem IsUnits.equals_iff (hx : x.IsUnits a) (hy : y.IsUnits b) : x.equals y = true ↔ a = b := by
  simp only [equals, hx.place?, hy.place?, beq_iff_eq, Int.ofNat_inj]

/-! ### Rounded down to a word -/

/-- What is too much for a word is clamped, whether it is finite or not. -/
theorem toNat_floorWord_ofUnits (num den : Nat) :
    (ofUnits false num den).floorWord.toNat =
      min (roundToGrid num den / one) (UInt32.size - 1) := by
  rcases Nat.lt_or_ge (roundToGrid num den) overflow with hfits | hover
  · obtain ⟨magnitude, hfinite, hunits⟩ := isUnits_ofUnits hfits
    rw [hfinite, ← hunits]
    exact UInt32.toNat_ofNat_of_lt' (Nat.lt_of_le_of_lt (Nat.min_le_right _ _) (by decide))
  · have hlarge : UInt32.size - 1 ≤ roundToGrid num den / one := by
      rw [Nat.le_div_iff_mul_le one_pos]
      exact Nat.le_of_lt (Nat.lt_of_lt_of_le (mul_one_lt_overflow (by decide)) hover)
    rw [ofUnits_of_overflow_le false hover, Nat.min_eq_right hlarge]
    rfl

theorem floorWord_of_isNegative (h : x.isNegative = true) : x.floorWord = 0 := by
  cases x with
  | nan => cases h
  | infinite negative | finite negative _ =>
      obtain rfl : negative = true := h
      rfl

theorem isNegative_ofUnits (negative : Bool) (num den : Nat) :
    (ofUnits negative num den).isNegative = negative := by
  unfold ofUnits
  split <;> rfl

theorem IsUnits.isNegative_mul (hx : x.IsUnits a) (negative : Bool) (magnitude : Magnitude) :
    (x * finite negative magnitude).isNegative = negative := by
  obtain ⟨m, rfl, -⟩ := hx
  change (Binary64.mul _ _).isNegative = negative
  rw [Binary64.mul, isNegative_ofUnits, Bool.false_bne]

theorem IsUnits.isNegative_div (hy : y.IsUnits b) (hb : 0 < b) :
    (x / y).isNegative = x.isNegative := by
  obtain ⟨n, rfl, rfl⟩ := hy
  change (Binary64.div _ _).isNegative = x.isNegative
  cases x with
  | nan => rfl
  | infinite negative => simp only [Binary64.div, isNegative, Bool.bne_false]
  | finite negative magnitude =>
      simp only [Binary64.div, Nat.ne_of_gt hb, if_false, isNegative_ofUnits, Bool.bne_false]
      rfl

end Binary64

end BattleItems
