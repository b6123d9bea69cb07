import Mathlib.Data.Rat.Floor
import Mathlib.Data.Set.Card
import BattleItems.Proofs.DrawCounts
import BattleItems.Proofs.RoundingError

/-!
# BattleItems.Proofs.Probabilities

How often a gate of chance lets through.

A gate turns the word that it draws into a number from zero to below one and compares. Nothing is
rounded on the way: the number is a whole multiple of `2⁻³²`, and the comparison is exact
(`unitInterval_less_iff`). So the gate asks whether the word lies below the probability times `2³²`,
in rational numbers, and the words that do are the first of all words.
-/

namespace BattleItems

namespace Binary64

/-! ### The number itself -/

/-- The rational number that a finite double is. -/
def toRat? : Binary64 → Option ℚ
  | finite false magnitude => some (magnitude.units / one)
  | finite true magnitude => some (-magnitude.units / one)
  | nan | infinite _ => none

variable {x y z : Binary64} {place : Int} {share : ℚ}

/-- The place of a finite number is its value in units. -/
theorem toRat?_of_isFinite (hfinite : x.isFinite = true) (hplace : x.place? = some place) :
    x.toRat? = some ((place : ℚ) / one) := by
  cases x with
  | nan | infinite _ => cases hfinite
  | finite negative magnitude =>
      cases negative with
      | false =>
          obtain rfl : (magnitude.units : Int) = place := Option.some.inj hplace
          rw [toRat?, Int.cast_natCast]
      | true =>
          obtain rfl : -(magnitude.units : Int) = place := Option.some.inj hplace
          rw [toRat?, Int.cast_neg, Int.cast_natCast]

theorem IsShare.isFinite (h : x.IsShare) : x.isFinite = true := by
  obtain ⟨place, hplace, hlower, hupper⟩ := h
  cases x with
  | finite _ _ => rfl
  | nan => cases hplace
  | infinite negative =>
      have hlarge : one < overflow := by decide +kernel
      cases negative with
      | false =>
          obtain rfl : (overflow : Int) = place := Option.some.inj hplace
          omega
      | true =>
          obtain rfl : -(overflow : Int) = place := Option.some.inj hplace
          omega

/-- A share is a rational number, and one at most. -/
theorem IsShare.exists_toRat? (h : x.IsShare) :
    ∃ share : ℚ, x.toRat? = some share ∧ share ≤ 1 := by
  have hfinite := h.isFinite
  obtain ⟨place, hplace, -, hupper⟩ := h
  have hone : (0 : ℚ) < one := Nat.cast_pos.mpr Binary64.one_pos
  have hbound : (place : ℚ) ≤ one := by
    rw [← Int.cast_natCast, Int.cast_le]
    exact hupper
  exact ⟨_, toRat?_of_isFinite hfinite hplace, (div_le_one hone).mpr hbound⟩

/-- Finite numbers in one place are the same rational number, whatever their signs. -/
theorem toRat?_of_equals (hfinite : x.isFinite = true) (hplace : y.place? = some place)
    (h : x.equals y = true) : x.toRat? = some ((place : ℚ) / one) := by
  obtain ⟨_, _, hx, hy, rfl⟩ := equals_eq_true_iff.mp h
  obtain rfl := Option.some.inj (hy.symm.trans hplace)
  exact toRat?_of_isFinite hfinite hx

theorem less_of_less_of_lessEq (hxy : x.less y = true) (hyz : y.lessEq z = true) :
    x.less z = true := by
  obtain ⟨a, b, ha, hb, hlt⟩ := less_eq_true_iff.mp hxy
  obtain ⟨_, c, hb', hc, hle⟩ := lessEq_eq_true_iff.mp hyz
  obtain rfl := Option.some.inj (hb.symm.trans hb')
  exact less_eq_true_iff.mpr ⟨a, c, ha, hc, by omega⟩

end Binary64

open Binary64

/-! ### The number that a word stands for -/

theorem Binary64.IsUnits.less_place?_iff {x y : Binary64} {units : Nat} {place : Int}
    (hx : x.IsUnits units) (hy : y.place? = some place) :
    x.less y = true ↔ (units : Int) < place := by
  simp only [less, hx.place?, hy, decide_eq_true_eq]

/-- What a word counts for, in units: `2⁻³²`. -/
def wordUnits : Nat := Nat.pow 2 1042

theorem one_eq_mul_wordUnits : one = UInt32.size * wordUnits := by decide +kernel

theorem onGrid_mul_wordUnits (word : UInt32) : OnGrid (word.toNat * wordUnits) := by
  unfold wordUnits
  apply onGrid_mul_two_pow _ (Nat.le_trans (Nat.le_of_lt word.toNat_lt) (by decide))

/-- The division by `2³²` is exact. -/
theorem isUnits_unitInterval (word : UInt32) :
    (unitInterval word).IsUnits (word.toNat * wordUnits) := by
  have hword : word.toNat ≤ 2 ^ 53 := Nat.le_trans (Nat.le_of_lt word.toNat_lt) (by decide)
  have hsize : 0 < UInt32.size * one := Nat.mul_pos (by decide) Binary64.one_pos
  have hratio : word.toNat * one * one * 1 = word.toNat * wordUnits * (UInt32.size * one) := by
    rw [one_eq_mul_wordUnits]
    generalize wordUnits = units
    ring
  have hexact : roundToGrid (word.toNat * one * one) (UInt32.size * one) =
      word.toNat * wordUnits :=
    (roundToGrid_eq_of_ratio hsize Nat.one_pos hratio).trans
      (roundToGrid_of_onGrid (onGrid_mul_wordUnits word))
  have hfits : word.toNat * wordUnits < overflow := by
    unfold wordUnits overflow
    apply mul_two_pow_lt (Nat.le_of_lt word.toNat_lt)
    decide
  have hunits := (isUnits_ofNat hword).div (isUnits_ofNat (by decide : UInt32.size ≤ 2 ^ 53)) hsize
    (by rwa [hexact])
  rwa [hexact] at hunits

/-- The same comparison in units and in numbers. -/
theorem lt_place_iff (word : Nat) (place : Int) :
    ((word * wordUnits : Nat) : Int) < place ↔ (word : ℚ) < (place : ℚ) / one * 2 ^ 32 := by
  have hone := one_eq_mul_wordUnits
  have hpos : (0 : ℚ) < one := Nat.cast_pos.mpr Binary64.one_pos
  -- From here on the size of the units does not matter.
  generalize one = one at hone hpos ⊢
  generalize wordUnits = units at hone ⊢
  subst hone
  rw [div_mul_eq_mul_div, lt_div_iff₀ hpos]
  have hscale : (word : ℚ) * (UInt32.size * units : Nat) = (word * units : Nat) * 2 ^ 32 := by
    push_cast
    ring
  rw [hscale, mul_lt_mul_iff_left₀ (by norm_num), ← Int.cast_lt (R := ℚ),
    Int.cast_natCast]

/-- A word is below a share exactly if it is in rational numbers. -/
theorem unitInterval_less_iff {p : Binary64} {share : ℚ} (hp : p.IsShare)
    (hshare : p.toRat? = some share) (word : UInt32) :
    (unitInterval word).less p = true ↔ (word.toNat : ℚ) < share * 2 ^ 32 := by
  have hfinite := hp.isFinite
  obtain ⟨place, hplace, -, -⟩ := hp
  obtain rfl : (place : ℚ) / one = share :=
    Option.some.inj ((toRat?_of_isFinite hfinite hplace).symm.trans hshare)
  rw [(isUnits_unitInterval word).less_place?_iff hplace]
  exact lt_place_iff word.toNat place

/-! ### The words that let through -/

/-- The words below a number are as many as it says. -/
theorem ncard_toNat_lt {count : Nat} (h : count ≤ UInt32.size) :
    {word : UInt32 | word.toNat < count}.ncard = count := by
  refine Set.ncard_eq_of_bijective (fun n _ => UInt32.ofNat n) ?_ ?_ ?_
  · intro word hword
    exact ⟨word.toNat, hword, UInt32.ofNat_toNat⟩
  · intro n hn
    change (UInt32.ofNat n).toNat < count
    rwa [UInt32.toNat_ofNat_of_lt' (Nat.lt_of_lt_of_le hn h)]
  · intro m n hm hn heq
    have htoNat := congrArg UInt32.toNat heq
    rwa [UInt32.toNat_ofNat_of_lt' (Nat.lt_of_lt_of_le hm h),
      UInt32.toNat_ofNat_of_lt' (Nat.lt_of_lt_of_le hn h)] at htoNat

namespace Binary64.IsShare

variable {p : Binary64} {share : ℚ} (hp : p.IsShare) (hshare : p.toRat? = some share)
include hp hshare

theorem chance_ok_true_iff {σ : Type} [DrawSource σ] {source next : σ} :
    chance p source = .ok true next ↔
      ∃ word, DrawSource.draw source = (.ok word, next) ∧ (word.toNat : ℚ) < share * 2 ^ 32 := by
  simp only [chance_ok_iff, eq_comm (a := true), unitInterval_less_iff hp hshare]

theorem chance_word_iff (word : UInt32) :
    (∃ next, chance p ({ words := [word] } : Recorded) = .ok true next) ↔
      word.toNat < ⌈share * 2 ^ 32⌉₊ := by
  rw [Nat.lt_ceil]
  constructor
  · rintro ⟨next, hpassed⟩
    obtain ⟨_, hdraw, hbelow⟩ := (hp.chance_ok_true_iff hshare).mp hpassed
    cases hdraw
    exact hbelow
  · intro hbelow
    exact ⟨{ words := [] }, (hp.chance_ok_true_iff hshare).mpr ⟨word, rfl, hbelow⟩⟩

end Binary64.IsShare

/-- **A gate of chance is exact.** With a word drawn it answers, and the answer is yes exactly if the
word lies below the probability times `2³²`, in rational numbers. So as many of all words let
through as the product says, rounded up; zero of either sign never lets through and one always does;
and what lets through at a probability lets through at every greater one. -/
theorem chance_is_exact {σ : Type} [DrawSource σ] {p : Binary64} (hp : p.isProbability = true) :
    ∃ share : ℚ, p.toRat? = some share ∧
      (∀ (source next : σ) (word : UInt32), DrawSource.draw source = (.ok word, next) →
        chance p source = .ok (decide ((word.toNat : ℚ) < share * 2 ^ 32)) next) ∧
      {word : UInt32 | ∃ next, chance p ({ words := [word] } : Recorded) = .ok true next}.ncard =
        ⌈share * 2 ^ 32⌉₊ ∧
      (p.equals 0 = true → ∀ source next : σ, chance p source ≠ .ok true next) ∧
      (p.equals 1 = true → ∀ (source next : σ) (word : UInt32),
        DrawSource.draw source = (.ok word, next) → chance p source = .ok true next) ∧
      ∀ q : Binary64, p.lessEq q = true → ∀ source next : σ,
        chance p source = .ok true next → chance q source = .ok true next := by
  rw [isProbability_iff] at hp
  obtain ⟨share, hshare, hupper⟩ := hp.exists_toRat?
  refine ⟨share, hshare, ?_, ?_, ?_, ?_, ?_⟩
  · intro source next word hdraw
    refine chance_ok_iff.mpr ⟨word, hdraw, ?_⟩
    rw [Bool.eq_iff_iff, decide_eq_true_iff, unitInterval_less_iff hp hshare]
  · have hfits : ⌈share * 2 ^ 32⌉₊ ≤ UInt32.size := by
      rw [Nat.ceil_le]
      calc share * 2 ^ 32 ≤ 1 * 2 ^ 32 := mul_le_mul_of_nonneg_right hupper (by norm_num)
        _ = (UInt32.size : ℚ) := by norm_num
    simp only [hp.chance_word_iff hshare]
    exact ncard_toNat_lt hfits
  · intro hzero source next hpassed
    obtain ⟨word, -, hbelow⟩ := (hp.chance_ok_true_iff hshare).mp hpassed
    obtain rfl := Option.some.inj
      (hshare.symm.trans (toRat?_of_equals hp.isFinite place?_zero hzero))
    rw [Int.cast_zero, zero_div, zero_mul] at hbelow
    exact absurd hbelow (not_lt.mpr (Nat.cast_nonneg _))
  · intro hone source next word hdraw
    refine (hp.chance_ok_true_iff hshare).mpr ⟨word, hdraw, ?_⟩
    obtain rfl := Option.some.inj
      (hshare.symm.trans (toRat?_of_equals hp.isFinite place?_one hone))
    have hne : (one : ℚ) ≠ 0 := Nat.cast_ne_zero.mpr (Nat.ne_of_gt Binary64.one_pos)
    rw [Int.cast_natCast, div_self hne, one_mul]
    exact_mod_cast word.toNat_lt
  · intro q hle source next hpassed
    obtain ⟨word, hdraw, hless⟩ := chance_ok_iff.mp hpassed
    exact chance_ok_iff.mpr ⟨word, hdraw, (less_of_less_of_lessEq hless.symm hle).symm⟩

/-- The least number above zero lets through with a single word, and the negative zero with none,
whatever generator they draw from. -/
theorem chance_is_exact_least :
    let least : Binary64 := finite false ⟨1, by decide +kernel⟩
    let zero : Binary64 := finite true ⟨0, by decide +kernel⟩
    least.isProbability = true ∧ zero.isProbability = true ∧
      {word : UInt32 | ∃ next, chance least ({ words := [word] } : Recorded) = .ok true next}.ncard =
        1 ∧
      ∀ source next : Pcg, chance zero source ≠ .ok true next := by
  intro least zero
  have hleast : least.isProbability = true := by decide +kernel
  have hzero : zero.isProbability = true := by decide +kernel
  obtain ⟨share, hshare, -, hcount, -, -, -⟩ := chance_is_exact (σ := Pcg) hleast
  obtain ⟨-, -, -, -, hnever, -, -⟩ := chance_is_exact (σ := Pcg) hzero
  refine ⟨hleast, hzero, ?_, hnever (by decide +kernel)⟩
  obtain rfl : ((1 : Nat) : ℚ) / one = share := Option.some.inj hshare
  have hone : (0 : ℚ) < one := Nat.cast_pos.mpr Binary64.one_pos
  have hwide : (2 : ℚ) ^ 32 ≤ one := by
    exact_mod_cast Nat.le_trans (by decide : 2 ^ 32 ≤ 2 ^ 105) two_pow_le_one
  rw [hcount, Nat.ceil_eq_iff one_ne_zero, Nat.sub_self, Nat.cast_zero, Nat.cast_one,
    div_mul_eq_mul_div, one_mul]
  exact ⟨div_pos (by norm_num) hone, (div_le_one hone).mpr hwide⟩

end BattleItems
