import BattleItems.Condition.Check
import BattleItems.Proofs.RoundingError

/-!
# BattleItems.Proofs.HpPercentages

What a condition on the percentage of HP compares.

The percentage is a quotient that is rounded, multiplied by one hundred and rounded again. The two
errors are far smaller than the distance between a share of a 32 bit maximum and a whole percentage,
so a creature that is not exactly at a percentage is always found on its right side
(`percentUnits_lt`, `lt_percentUnits`). Exactly at a percentage the result depends on the percentage
alone (`percentUnits_of_eq`), and there are eight of them where the second rounding does not make up
for the first: at five the creature comes out above, at three below (`percentUnits_percent`).
-/

namespace BattleItems

open Binary64

/-! ### The percentage in units -/

/-- The percentage of HP as it comes out of the two roundings, in units. -/
def percentUnits (hp maxHp : Nat) : Nat := roundToGrid (100 * roundToGrid (hp * one) maxHp) 1

variable {hp maxHp p : Nat}

/-- The share of the maximum is at most one, and rounds to less than two. -/
theorem roundToGrid_share_le (hle : hp ≤ maxHp) :
    roundToGrid (hp * one) maxHp ≤ 2 ^ (1022 + 53) := by
  apply roundToGrid_le_of_gridShift_le
  apply gridShift_le_iff.mpr
  calc hp * one / maxHp ≤ maxHp * one / maxHp := Nat.div_le_div_right (Nat.mul_le_mul_right _ hle)
    _ ≤ one := Nat.div_le_of_le_mul (Nat.le_refl _)
    _ < 2 ^ (1022 + 53) := by decide +kernel

theorem percentUnits_lt_overflow (hle : hp ≤ maxHp) : percentUnits hp maxHp < overflow := by
  unfold percentUnits
  rw [roundToGrid_lt_overflow_iff Nat.one_pos, Nat.mul_one]
  calc 100 * roundToGrid (hp * one) maxHp
      ≤ 100 * 2 ^ (1022 + 53) := Nat.mul_le_mul_left 100 (roundToGrid_share_le hle)
    _ < roundingLimit := by decide +kernel

/-- The units of the percentage, for words as for all whole numbers that doubles hold. -/
theorem isUnits_percentage (hmax : 0 < maxHp) (hle : hp ≤ maxHp) (hword : maxHp ≤ 2 ^ 53) :
    (ofNat hp / ofNat maxHp * 100).IsUnits (percentUnits hp maxHp) := by
  have hhp := isUnits_ofNat (Nat.le_trans hle hword)
  have hmaxHp := isUnits_ofNat hword
  have hshare : roundToGrid (hp * one * one) (maxHp * one) = roundToGrid (hp * one) maxHp :=
    roundToGrid_eq_of_ratio (Nat.mul_pos hmax Binary64.one_pos) hmax (by ring)
  have hquotient := hhp.div hmaxHp (Nat.mul_pos hmax Binary64.one_pos) (by
    rw [hshare]
    exact Nat.lt_of_le_of_lt (roundToGrid_share_le hle) (by decide +kernel))
  rw [hshare] at hquotient
  have hscaled : roundToGrid (roundToGrid (hp * one) maxHp * (100 * one)) one =
      percentUnits hp maxHp :=
    roundToGrid_eq_of_ratio Binary64.one_pos Nat.one_pos (by ring)
  have hproduct := hquotient.mul (isUnits_ofNat (by decide : 100 ≤ 2 ^ 53)) (by
    rw [hscaled]
    exact percentUnits_lt_overflow hle)
  rwa [hscaled] at hproduct

/-! ### Where a percentage comes out -/

section Errors

variable (hmax : 0 < maxHp) (hword : maxHp < 2 ^ 32)
include hmax hword

theorem percentUnits_lt (hp100 : p ≤ 100) (hbelow : 100 * hp < p * maxHp) :
    percentUnits hp maxHp < p * one := by
  rcases Nat.eq_zero_or_pos hp with rfl | hhp
  · rw [percentUnits, Nat.zero_mul, roundToGrid_zero hmax, Nat.mul_zero,
      roundToGrid_zero Nat.one_pos]
    exact Nat.mul_pos (Nat.pos_of_mul_pos_right hbelow) Binary64.one_pos
  · apply Nat.lt_of_not_le
    intro hreached
    have hshares : 2 ^ 106 * (p * maxHp) ≤ (2 ^ 53 + 1) ^ 2 * (100 * hp) :=
      whole_le_of_le_scaled hhp hmax (by omega) (by decide) hreached
    have hsmall : p * maxHp ≤ 100 * 2 ^ 32 := Nat.mul_le_mul hp100 (Nat.le_of_lt hword)
    omega

theorem lt_percentUnits (hp100 : p ≤ 100) (habove : p * maxHp < 100 * hp) :
    p * one < percentUnits hp maxHp := by
  have hhp : 0 < hp := by omega
  apply Nat.lt_of_not_le
  intro hreached
  have hshares : (2 ^ 53 - 1) ^ 2 * (100 * hp) ≤ 2 ^ 106 * (p * maxHp) :=
    le_whole_of_scaled_le hhp hmax (by omega) (by decide) hreached
  have hsmall : p * maxHp ≤ 100 * 2 ^ 32 := Nat.mul_le_mul hp100 (Nat.le_of_lt hword)
  omega

end Errors

theorem percentUnits_of_eq (hmax : 0 < maxHp) (h : 100 * hp = p * maxHp) :
    percentUnits hp maxHp = percentUnits p 100 := by
  have hshare : roundToGrid (hp * one) maxHp = roundToGrid (p * one) 100 := by
    apply roundToGrid_eq_of_ratio hmax (by decide)
    calc hp * one * 100 = 100 * hp * one := by ring
      _ = p * one * maxHp := by rw [h]; ring
  rw [percentUnits, percentUnits, hshare]

/-- The percentages at which a creature is taken to be above them. -/
def overstatedPercents : List Nat := [7, 14, 28, 55, 56]

/-- The percentages at which a creature is taken to be below them. -/
def understatedPercents : List Nat := [29, 57, 58]

/-- Every percentage tried out on the creature that has as many HP of 100. -/
theorem percentUnits_percent : ∀ p ≤ 100,
    (percentUnits p 100 ≤ p * one ↔ p ∉ overstatedPercents) ∧
      (p * one ≤ percentUnits p 100 ↔ p ∉ understatedPercents) := by
  decide +kernel

section Sides

variable (hp) (hmax : 0 < maxHp) (hword : maxHp < 2 ^ 32) (hp100 : p ≤ 100)
include hmax hword hp100

theorem percentUnits_le_iff :
    percentUnits hp maxHp ≤ p * one ↔
      100 * hp < p * maxHp ∨ 100 * hp = p * maxHp ∧ p ∉ overstatedPercents := by
  rcases Nat.lt_trichotomy (100 * hp) (p * maxHp) with hbelow | hat | habove
  · exact iff_of_true (Nat.le_of_lt (percentUnits_lt hmax hword hp100 hbelow)) (Or.inl hbelow)
  · rw [percentUnits_of_eq hmax hat, (percentUnits_percent p hp100).1]
    simp only [hat, Nat.lt_irrefl, false_or, true_and]
  · have hgreater := lt_percentUnits hmax hword hp100 habove
    refine iff_of_false (Nat.not_le.mpr hgreater) ?_
    omega

theorem le_percentUnits_iff :
    p * one ≤ percentUnits hp maxHp ↔
      p * maxHp < 100 * hp ∨ 100 * hp = p * maxHp ∧ p ∉ understatedPercents := by
  rcases Nat.lt_trichotomy (100 * hp) (p * maxHp) with hbelow | hat | habove
  · have hless := percentUnits_lt hmax hword hp100 hbelow
    refine iff_of_false (Nat.not_le.mpr hless) ?_
    omega
  · rw [percentUnits_of_eq hmax hat, (percentUnits_percent p hp100).2]
    simp only [hat, Nat.lt_irrefl, false_or, true_and]
  · exact iff_of_true (Nat.le_of_lt (lt_percentUnits hmax hword hp100 habove)) (Or.inl habove)

theorem percentUnits_eq_iff :
    percentUnits hp maxHp = p * one ↔
      100 * hp = p * maxHp ∧ p ∉ overstatedPercents ∧ p ∉ understatedPercents := by
  rw [Nat.le_antisymm_iff, percentUnits_le_iff hp hmax hword hp100,
    le_percentUnits_iff hp hmax hword hp100]
  constructor
  · rintro ⟨hbelow | ⟨hat, hover⟩, habove | ⟨hat, hunder⟩⟩
    · omega
    · omega
    · omega
    · exact ⟨hat, hover, hunder⟩
  · rintro ⟨hat, hover, hunder⟩
    exact ⟨Or.inr ⟨hat, hover⟩, Or.inr ⟨hat, hunder⟩⟩

end Sides

/-! ### The condition -/

namespace Condition

variable {σ : Type} [DrawSource σ]

/-- A condition on the percentage of HP answers without a draw. -/
theorem check_hpPercentage_eq {context : Context} (hmax : 0 < context.creature.maxHp)
    (comparison : Comparison) (source : σ) :
    let condition : Condition := { kind := .hpPercentage comparison }
    condition.check context source =
      .ok (if comparison.admits context.creature.hpPercentage then .passed
        else .failed condition.refusal) source := by
  intro condition
  have hpresent : context.creature.maxHp ≠ 0 := by
    intro hzero
    rw [hzero] at hmax
    cases hmax
  simp only [condition, check, ask, ConditionKind.holds, hpresent, if_false, pure_bind,
    ConditionKind.holdsIn, Bool.bne_false]
  rfl

theorem check_hpPercentage_eq_passed_iff {context : Context} (hmax : 0 < context.creature.maxHp)
    (comparison : Comparison) (source : σ) :
    check { kind := .hpPercentage comparison } context source = .ok .passed source ↔
      comparison.admits context.creature.hpPercentage = true := by
  rw [check_hpPercentage_eq hmax]
  cases comparison.admits context.creature.hpPercentage <;> simp

/-- **A percentage of HP is compared exactly, but for eight percentages.** The condition always
answers, without a draw. Off a percentage it gives the answer of exact arithmetic. Exactly at
one, too, unless the percentage is one of those that come out above or below themselves. -/
theorem check_hpPercentage_passes_iff (context : Context) (source : σ) (p : Nat)
    (hmax : 0 < context.creature.maxHp) (hle : context.creature.hp ≤ context.creature.maxHp)
    (hp100 : p ≤ 100) :
    let hp := context.creature.hp.toNat
    let maxHp := context.creature.maxHp.toNat
    let answer (comparison : Comparison) :=
      check { kind := .hpPercentage comparison } context source
    (∀ comparison, answer comparison = .ok .passed source ∨
        ∃ reason, answer comparison = .ok (.failed reason) source) ∧
      (answer (.lessEqual (.ofNat p)) = .ok .passed source ↔
        100 * hp < p * maxHp ∨ 100 * hp = p * maxHp ∧ p ∉ overstatedPercents) ∧
      (answer (.greaterEqual (.ofNat p)) = .ok .passed source ↔
        p * maxHp < 100 * hp ∨ 100 * hp = p * maxHp ∧ p ∉ understatedPercents) ∧
      (answer (.equals (.ofNat p)) = .ok .passed source ↔
        100 * hp = p * maxHp ∧ p ∉ overstatedPercents ∧ p ∉ understatedPercents) := by
  intro hp maxHp answer
  have hword : maxHp < 2 ^ 32 := context.creature.maxHp.toNat_lt
  have hactual : context.creature.hpPercentage.IsUnits (percentUnits hp maxHp) :=
    isUnits_percentage hmax hle (Nat.le_trans (Nat.le_of_lt hword) (by decide))
  have hbound : (ofNat p).IsUnits (p * one) :=
    isUnits_ofNat (Nat.le_trans hp100 (by decide))
  have hpos : 0 < maxHp := hmax
  refine ⟨fun comparison => ?_, ?_, ?_, ?_⟩
  · simp only [answer, check_hpPercentage_eq hmax]
    split
    · exact Or.inl rfl
    · exact Or.inr ⟨_, rfl⟩
  · rw [check_hpPercentage_eq_passed_iff hmax, Comparison.admits, hactual.lessEq_iff hbound]
    exact percentUnits_le_iff hp hpos hword hp100
  · rw [check_hpPercentage_eq_passed_iff hmax, Comparison.admits, hbound.lessEq_iff hactual]
    exact le_percentUnits_iff hp hpos hword hp100
  · rw [check_hpPercentage_eq_passed_iff hmax, Comparison.admits, hactual.equals_iff hbound]
    exact percentUnits_eq_iff hp hpos hword hp100

/-- Exactly at 25 percent, and therefore not at 26. -/
theorem check_hpPercentage_passes_iff_berry :
    let creature : Creature := { hp := 20, maxHp := 80 }
    let context : Context := { creature }
    let source : Recorded := { words := [] }
    0 < creature.maxHp ∧ creature.hp ≤ creature.maxHp ∧
      check { kind := .hpPercentage (.lessEqual 25) } context source = .ok .passed source ∧
      check { kind := .hpPercentage (.equals 25) } context source = .ok .passed source ∧
      check { kind := .hpPercentage (.greaterEqual 26) } context source ≠ .ok .passed source := by
  intro creature context source
  have hmax : 0 < creature.maxHp := by decide
  have hle : creature.hp ≤ creature.maxHp := by decide
  obtain ⟨-, hlower, -, hexact⟩ :=
    check_hpPercentage_passes_iff context source 25 hmax hle (by decide)
  obtain ⟨-, -, hupper, -⟩ :=
    check_hpPercentage_passes_iff context source 26 hmax hle (by decide)
  refine ⟨hmax, hle, hlower.mpr (by decide), hexact.mpr (by decide), ?_⟩
  intro hpassed
  exact absurd (hupper.mp hpassed) (by decide)

/-- **A creature at seven percent is refused where seven percent at most are asked for.** It has
7 HP of 100. -/
theorem check_hpPercentage_overstates :
    let creature : Creature := { hp := 7, maxHp := 100 }
    let context : Context := { creature }
    let source : Recorded := { words := [] }
    0 < creature.maxHp ∧ creature.hp ≤ creature.maxHp ∧
      100 * creature.hp.toNat ≤ 7 * creature.maxHp.toNat ∧
      check { kind := .hpPercentage (.lessEqual 7) } context source =
        .ok (.failed "Requirement not met: HP % must be <= 7") source := by
  intro creature context source
  have hmax : 0 < creature.maxHp := by decide
  have hdenied : (Comparison.lessEqual 7).admits creature.hpPercentage = false := by
    decide +kernel
  have hreason : refusal { kind := .hpPercentage (.lessEqual 7) } =
      "Requirement not met: HP % must be <= 7" := by
    decide +kernel
  refine ⟨hmax, by decide, by decide, ?_⟩
  rw [check_hpPercentage_eq hmax, hdenied, hreason]
  rfl

end Condition

end BattleItems
