import Mathlib.Data.UInt
import BattleItems.Proofs.Outcomes
import BattleItems.Proofs.RoundingError

/-!
# BattleItems.Proofs.StatBoosts

What a boost makes of a stat.

Upwards the curve is a whole number of halves. A double holds it exactly, the product too for as
long as the result fits a word, and so a raised stat is the exact one, rounded down
(`toNat_boostedStat_of_nonneg`). Downwards the curve is a reciprocal that is rounded before it is
multiplied. The two errors are far smaller than the distance of a fraction from the next whole
number, so a lowered stat is the exact one, rounded down, wherever the division leaves a rest; where
it leaves none, the result may come out just below the whole number and lose one. That is decided by
the grid below this number and by how far the rounded reciprocal falls short (`FallsShort`), and it
never happens down to 46 stages (`not_fallsShort`).

That boosts keep the order needs none of this: every step of the computation keeps it
(`boostedStat_mono`).
-/

namespace BattleItems

/-! ### Halves -/

namespace Binary64

/-- One half, in units. -/
def half : Nat := Nat.pow 2 1073

theorem one_eq_two_mul_half : one = 2 * half := by decide +kernel

theorem half_pos : 0 < half := by
  have hone := one_pos
  rw [one_eq_two_mul_half] at hone
  omega

variable {n : Nat}

theorem roundToGrid_mul_half (h : n ≤ 2 ^ 53) : roundToGrid (n * half) 1 = n * half := by
  apply roundToGrid_of_onGrid
  unfold half
  apply onGrid_mul_two_pow _ h

theorem roundToGrid_halves (h : n ≤ 2 ^ 53) : roundToGrid (n * one) 2 = n * half := by
  rw [← roundToGrid_mul_half h]
  exact roundToGrid_eq_of_ratio Nat.two_pos Nat.one_pos (by rw [one_eq_two_mul_half]; ring)

theorem mul_half_lt_overflow (h : n ≤ 2 ^ 53) : n * half < overflow := by
  calc n * half ≤ n * one := by
        rw [one_eq_two_mul_half]
        exact Nat.mul_le_mul_left n (Nat.le_mul_of_pos_left half Nat.two_pos)
    _ < overflow := mul_one_lt_overflow h

theorem isUnits_half : (1 / 2 : Binary64).IsUnits half := by
  have hquotient : roundToGrid (1 * one * one) (2 * one) = half := by
    calc roundToGrid (1 * one * one) (2 * one) = roundToGrid (1 * one) 2 :=
          roundToGrid_eq_of_ratio (Nat.mul_pos Nat.two_pos one_pos) Nat.two_pos (by ring)
      _ = half := by rw [roundToGrid_halves (by decide), Nat.one_mul]
  have hone : (ofNat 1).IsUnits (1 * one) := isUnits_ofNat (by decide)
  have htwo : (ofNat 2).IsUnits (2 * one) := isUnits_ofNat (by decide)
  have hunits := hone.div htwo (Nat.mul_pos Nat.two_pos one_pos) (by
    rw [hquotient, ← Nat.one_mul half]
    exact mul_half_lt_overflow (by decide))
  rwa [hquotient] at hunits

end Binary64

open Binary64

/-! ### The curve -/

theorem natAbs_stages_le (stages : Int32) : stages.toInt.natAbs ≤ 2 ^ 31 := by
  have hlower := stages.le_toInt
  have hupper := stages.toInt_lt
  omega

/-- The step of the curve is a whole number of halves and takes no rounding. -/
theorem isUnits_stageStep {n : Nat} (h : n ≤ 2 ^ 31) :
    (1 + ofNat n * (1 / 2)).IsUnits ((2 + n) * half) := by
  have hproduct : roundToGrid (n * one * half) one = n * half := by
    calc roundToGrid (n * one * half) one = roundToGrid (n * half) 1 :=
          roundToGrid_eq_of_ratio Binary64.one_pos Nat.one_pos (by ring)
      _ = n * half := roundToGrid_mul_half (by omega)
  have hscaled := (isUnits_ofNat (by omega : n ≤ 2 ^ 53)).mul isUnits_half (by
    rw [hproduct]
    exact mul_half_lt_overflow (by omega))
  rw [hproduct] at hscaled
  have hsum : roundToGrid (1 * one + n * half) 1 = (2 + n) * half := by
    have hhalves : 1 * one + n * half = (2 + n) * half := by
      rw [one_eq_two_mul_half]
      ring
    rw [hhalves, roundToGrid_mul_half (by omega)]
  have hstep := (isUnits_ofNat (by decide : 1 ≤ 2 ^ 53)).add hscaled (by
    rw [hsum]
    exact mul_half_lt_overflow (by omega))
  rwa [hsum] at hstep

/-- The numerator and the denominator of the curve: `(2 + stages) / 2` upwards and
`2 / (2 + |stages|)` downwards. -/
def stageRatio (stages : Int32) : Nat × Nat :=
  let stretch := 2 + stages.toInt.natAbs
  if 0 ≤ stages then (stretch, 2) else (2, stretch)

/-- The curve as it comes out of rounding, in units. -/
def stageUnits (stages : Int32) : Nat :=
  roundToGrid ((stageRatio stages).1 * one) (stageRatio stages).2

theorem isUnits_stageMultiplier (stages : Int32) :
    (stageMultiplier stages).IsUnits (stageUnits stages) := by
  have hstages := natAbs_stages_le stages
  have hstep := isUnits_stageStep hstages
  simp only [stageMultiplier, stageUnits, stageRatio]
  generalize stages.toInt.natAbs = n at *
  split
  · rwa [roundToGrid_halves (by omega)]
  · have hstretch : 0 < (2 + n) * half := Nat.mul_pos (by omega) half_pos
    have hratio : roundToGrid (1 * one * one) ((2 + n) * half) = roundToGrid (2 * one) (2 + n) :=
      roundToGrid_eq_of_ratio hstretch (by omega) (by rw [one_eq_two_mul_half]; ring)
    have hfits : roundToGrid (2 * one) (2 + n) < overflow := by
      calc roundToGrid (2 * one) (2 + n) ≤ roundToGrid (2 * one) 2 := by
            refine roundToGrid_mono (by omega) Nat.two_pos ?_
            gcongr
            omega
        _ = 2 * half := roundToGrid_halves (by decide)
        _ < overflow := mul_half_lt_overflow (by decide)
    have hquotient := (isUnits_ofNat (by decide : 1 ≤ 2 ^ 53)).div hstep hstretch (by rwa [hratio])
    rwa [hratio] at hquotient

/-- A boosted stat is the value times the rounded curve, rounded, rounded down and clamped. -/
theorem toNat_boostedStat (value : UInt32) (stages : Int32) :
    (boostedStat value stages).toNat =
      min (roundToGrid (value.toNat * stageUnits stages) 1 / one) (UInt32.size - 1) := by
  have hvalue : value.toNat ≤ 2 ^ 53 := Nat.le_trans (Nat.le_of_lt value.toNat_lt) (by decide)
  have hproduct : roundToGrid (value.toNat * one * stageUnits stages) one =
      roundToGrid (value.toNat * stageUnits stages) 1 :=
    roundToGrid_eq_of_ratio Binary64.one_pos Nat.one_pos (by ring)
  rw [boostedStat, (isUnits_ofNat hvalue).mul_eq (isUnits_stageMultiplier stages),
    toNat_floorWord_ofUnits, hproduct]

/-! ### Order -/

theorem stageUnits_mono {weaker stronger : Int32} (h : weaker ≤ stronger) :
    stageUnits weaker ≤ stageUnits stronger := by
  rw [Int32.le_iff_toInt_le] at h
  simp only [stageUnits, stageRatio, Int32.le_iff_toInt_le, Int32.toInt_zero]
  split <;> split
  · -- Upwards the numerator grows.
    refine roundToGrid_mono Nat.two_pos Nat.two_pos ?_
    gcongr
    omega
  · omega
  · -- Downwards the curve is at most one, and upwards at least one.
    refine roundToGrid_mono (by omega) Nat.two_pos ?_
    rw [Nat.mul_right_comm, Nat.mul_right_comm _ one]
    gcongr <;> omega
  · -- Downwards the denominator grows with the number of stages.
    refine roundToGrid_mono (by omega) (by omega) ?_
    gcongr
    omega

theorem boostedStat_mono {value larger : UInt32} {weaker stronger : Int32}
    (hvalue : value ≤ larger) (hstages : weaker ≤ stronger) :
    boostedStat value weaker ≤ boostedStat larger stronger := by
  rw [UInt32.le_iff_toNat_le] at hvalue ⊢
  have hproduct : value.toNat * stageUnits weaker ≤ larger.toNat * stageUnits stronger :=
    Nat.mul_le_mul hvalue (stageUnits_mono hstages)
  have hround : roundToGrid (value.toNat * stageUnits weaker) 1 ≤
      roundToGrid (larger.toNat * stageUnits stronger) 1 :=
    roundToGrid_mono Nat.one_pos Nat.one_pos (Nat.mul_le_mul_right 1 hproduct)
  have hfloor := Nat.div_le_div_right (c := one) hround
  rw [toNat_boostedStat, toNat_boostedStat]
  omega

/-! ### Upwards -/

theorem stageUnits_of_nonneg {stages : Int32} (h : 0 ≤ stages) :
    stageUnits stages = (2 + stages.toInt.natAbs) * half := by
  have hstages := natAbs_stages_le stages
  simp only [stageUnits, stageRatio, h, if_true]
  exact roundToGrid_halves (by omega)

theorem toNat_boostedStat_of_nonneg (value : UInt32) {stages : Int32} (h : 0 ≤ stages) :
    (boostedStat value stages).toNat =
      min (value.toNat * (2 + stages.toInt.natAbs) / 2) (UInt32.size - 1) := by
  rw [toNat_boostedStat, stageUnits_of_nonneg h, ← Nat.mul_assoc]
  generalize value.toNat * (2 + stages.toInt.natAbs) = halves
  by_cases hexact : halves ≤ 2 ^ 53
  · rw [roundToGrid_mul_half hexact, one_eq_two_mul_half, Nat.mul_div_mul_right _ _ half_pos]
  · -- The product may be rounded, but on both sides it is too much for a word.
    have hlarge : 2 ^ 52 ≤ roundToGrid (halves * half) 1 / one := by
      rw [Nat.le_div_iff_mul_le Binary64.one_pos]
      apply le_roundToGrid_of_onGrid (onGrid_mul_one (by decide)) Nat.one_pos
      calc 2 ^ 52 * one * 1 = 2 ^ 53 * half := by rw [one_eq_two_mul_half]; ring
        _ ≤ halves * half := Nat.mul_le_mul_right half (by omega)
    have hsize : UInt32.size = 2 ^ 32 := rfl
    omega

theorem boostedStat_zero (value : UInt32) : boostedStat value 0 = value := by
  have hvalue := value.toNat_lt
  have hsize : UInt32.size = 2 ^ 32 := rfl
  apply UInt32.toNat_inj.mp
  rw [toNat_boostedStat_of_nonneg value (by decide)]
  simp only [Int32.toInt_zero, Int.natAbs_zero]
  omega

/-! ### Downwards -/

/-- By how many units `divisor` times the rounded value of `2 / divisor` falls short of two. -/
def shortfall (divisor : Nat) : Nat := 2 * one - divisor * roundToGrid (2 * one) divisor

/-- The product that should be this whole number lies half of so many shortfalls below it. It is
rounded to less where that is more than half of the gap which the grid has below the number. -/
def FallsShort (divisor quotient : Nat) : Prop :=
  2 ^ gridShift (quotient * one - 1) < quotient * shortfall divisor

instance (divisor quotient : Nat) : Decidable (FallsShort divisor quotient) :=
  inferInstanceAs (Decidable (2 ^ gridShift (quotient * one - 1) < quotient * shortfall divisor))

theorem not_fallsShort_of_shortfall_le {divisor : Nat} (h : 2 ^ 53 * shortfall divisor ≤ one)
    (quotient : Nat) : ¬FallsShort divisor quotient := by
  have hgap := gridShift_le_iff.mp (Nat.le_refl (gridShift (quotient * one - 1)))
  unfold FallsShort
  apply Nat.not_lt.mpr
  refine Nat.le_of_mul_le_mul_left ?_ (Nat.two_pow_pos 53)
  calc 2 ^ 53 * (quotient * shortfall divisor) = quotient * (2 ^ 53 * shortfall divisor) :=
        Nat.mul_left_comm ..
    _ ≤ quotient * one := Nat.mul_le_mul_left quotient h
    _ ≤ 2 ^ (gridShift (quotient * one - 1) + 53) := by omega
    _ = 2 ^ 53 * 2 ^ gridShift (quotient * one - 1) := by rw [Nat.pow_add, Nat.mul_comm]

/-- The divisors tried out one by one; 49 is the first that falls short. -/
theorem not_fallsShort {divisor : Nat} (hpos : 0 < divisor) (h : divisor ≤ 48) (quotient : Nat) :
    ¬FallsShort divisor quotient := by
  have hshortfalls : ∀ divisor ≤ 48, 0 < divisor → 2 ^ 53 * shortfall divisor ≤ one := by
    decide +kernel
  exact not_fallsShort_of_shortfall_le (hshortfalls divisor h hpos) quotient

/-- What a value is lowered to, in units. -/
def loweredUnits (value divisor : Nat) : Nat :=
  roundToGrid (value * roundToGrid (2 * one) divisor) 1

section Lowered

variable {value divisor quotient : Nat} (hpos : 0 < divisor)
include hpos

/-- Where the exact result is a whole number, it is missed exactly if the parts fall short. -/
theorem loweredUnits_lt_iff (hword : value < 2 ^ 32) (h : quotient * divisor = 2 * value) :
    loweredUnits value divisor < quotient * one ↔ FallsShort divisor quotient := by
  rcases Nat.eq_zero_or_pos quotient with rfl | hquotient
  · simp only [FallsShort, Nat.zero_mul, Nat.not_lt_zero]
  have hsmall : quotient ≤ 2 ^ 52 := by
    have hle := Nat.le_mul_of_pos_right quotient hpos
    omega
  unfold loweredUnits FallsShort shortfall
  rw [roundToGrid_lt_mul_one_iff Nat.one_pos hquotient hsmall, Nat.mul_one, Nat.mul_sub]
  generalize roundToGrid (2 * one) divisor = reciprocal
  generalize 2 ^ gridShift (quotient * one - 1) = spacing
  have hproduct : 2 * (value * reciprocal) = quotient * (divisor * reciprocal) := by
    rw [← Nat.mul_assoc, ← Nat.mul_assoc, h]
  have htwo : quotient * (2 * one) = 2 * (quotient * one) := Nat.mul_left_comm ..
  rw [hproduct, htwo]
  omega

variable (hdivisor : divisor ≤ 2 ^ 32) (hword : value < 2 ^ 32)
include hdivisor hword

/-- A whole number that lies above the exact result is not reached. -/
theorem loweredUnits_lt (h : 2 * value < quotient * divisor) :
    loweredUnits value divisor < quotient * one := by
  rcases Nat.eq_zero_or_pos value with rfl | hvalue
  · rw [loweredUnits, Nat.zero_mul, roundToGrid_zero Nat.one_pos]
    exact Nat.mul_pos (Nat.pos_of_mul_pos_right h) Binary64.one_pos
  apply Nat.lt_of_not_le
  intro hreached
  have hwhole : 2 ^ 106 * (quotient * divisor) ≤ (2 ^ 53 + 1) ^ 2 * (value * 2) :=
    whole_le_of_le_scaled Nat.two_pos hpos (by omega) hvalue hreached
  omega

/-- A whole number that lies below the exact result is reached. -/
theorem le_loweredUnits (h : quotient * divisor < 2 * value) :
    quotient * one ≤ loweredUnits value divisor := by
  have hvalue : 0 < value := by omega
  apply Nat.le_of_not_lt
  intro hmissed
  have hwhole : (2 ^ 53 - 1) ^ 2 * (value * 2) ≤ 2 ^ 106 * (quotient * divisor) :=
    le_whole_of_scaled_le Nat.two_pos hpos (by omega) hvalue (Nat.le_of_lt hmissed)
  omega

theorem loweredUnits_lt_next :
    loweredUnits value divisor < (2 * value / divisor + 1) * one := by
  apply loweredUnits_lt hpos hdivisor hword
  rw [Nat.mul_comm _ divisor]
  exact Nat.lt_mul_div_succ _ hpos

theorem loweredUnits_div_one_of_not_dvd (h : ¬divisor ∣ 2 * value) :
    loweredUnits value divisor / one = 2 * value / divisor := by
  have hrest : 2 * value / divisor * divisor < 2 * value := by
    refine Nat.lt_of_le_of_ne (Nat.div_mul_le_self _ _) fun heq => h ?_
    exact ⟨_, heq.symm.trans (Nat.mul_comm ..)⟩
  exact Nat.div_eq_of_lt_le (le_loweredUnits hpos hdivisor hword hrest)
    (loweredUnits_lt_next hpos hdivisor hword)

theorem loweredUnits_div_one_of_not_fallsShort (hdvd : divisor ∣ 2 * value)
    (h : ¬FallsShort divisor (2 * value / divisor)) :
    loweredUnits value divisor / one = 2 * value / divisor := by
  have hmissed := loweredUnits_lt_iff hpos hword (Nat.div_mul_cancel hdvd)
  exact Nat.div_eq_of_lt_le (Nat.le_of_not_lt fun hbelow => h (hmissed.mp hbelow))
    (loweredUnits_lt_next hpos hdivisor hword)

theorem loweredUnits_div_one_of_fallsShort (hdvd : divisor ∣ 2 * value)
    (h : FallsShort divisor (2 * value / divisor)) :
    loweredUnits value divisor / one = 2 * value / divisor - 1 := by
  have hexact : 2 * value / divisor * divisor = 2 * value := Nat.div_mul_cancel hdvd
  have hbelow := (loweredUnits_lt_iff hpos hword hexact).mpr h
  generalize 2 * value / divisor = quotient at *
  have hquotient : 0 < quotient := Nat.pos_of_mul_pos_right (Nat.zero_lt_of_lt hbelow)
  have hbefore : (quotient - 1) * divisor < 2 * value := by
    rw [← hexact]
    exact Nat.mul_lt_mul_of_pos_right (Nat.sub_one_lt (Nat.ne_of_gt hquotient)) hpos
  have hlower := le_loweredUnits hpos hdivisor hword hbefore
  rw [← Nat.sub_add_cancel hquotient] at hbelow
  exact Nat.div_eq_of_lt_le hlower hbelow

/-- The exact result rounded down, less one where it is a whole number that is missed. -/
theorem loweredUnits_div_one :
    loweredUnits value divisor / one =
      if divisor ∣ 2 * value ∧ FallsShort divisor (2 * value / divisor) then
        2 * value / divisor - 1
      else 2 * value / divisor := by
  by_cases hdvd : divisor ∣ 2 * value
  · by_cases hshort : FallsShort divisor (2 * value / divisor)
    · rw [if_pos ⟨hdvd, hshort⟩]
      exact loweredUnits_div_one_of_fallsShort hpos hdivisor hword hdvd hshort
    · rw [if_neg fun hmissed => hshort hmissed.2]
      exact loweredUnits_div_one_of_not_fallsShort hpos hdivisor hword hdvd hshort
  · rw [if_neg fun hmissed => hdvd hmissed.1]
    exact loweredUnits_div_one_of_not_dvd hpos hdivisor hword hdvd

end Lowered

theorem toNat_boostedStat_of_neg (value : UInt32) {stages : Int32} (h : stages < 0) :
    let stretch := 2 + stages.toInt.natAbs
    let quotient := 2 * value.toNat / stretch
    (boostedStat value stages).toNat =
      if stretch ∣ 2 * value.toNat ∧ FallsShort stretch quotient then quotient - 1
      else quotient := by
  intro stretch quotient
  have hstages := natAbs_stages_le stages
  have hvalue := value.toNat_lt
  have hstretch : 2 ≤ stretch := Nat.le_add_right 2 _
  have hlowered : (boostedStat value stages).toNat =
      min (loweredUnits value.toNat stretch / one) (UInt32.size - 1) := by
    have hunits : stageUnits stages = roundToGrid (2 * one) stretch := by
      simp only [stageUnits, stageRatio, Int32.not_le.mpr h, if_false, stretch]
    rw [toNat_boostedStat, hunits]
    rfl
  have hquotient : quotient ≤ value.toNat := by
    refine Nat.div_le_of_le_mul ?_
    exact Nat.mul_le_mul_right _ hstretch
  have hfits : loweredUnits value.toNat stretch / one ≤ UInt32.size - 1 := by
    rw [loweredUnits_div_one (by omega) (by omega) hvalue]
    have hsize : UInt32.size = 2 ^ 32 := rfl
    split <;> omega
  rw [hlowered, Nat.min_eq_left hfits, loweredUnits_div_one (by omega) (by omega) hvalue]

/-! ### Actions -/

theorem Creature.boost_of_present {creature : Creature} {stat : StatKind} {value : UInt32}
    (h : creature.stats.get? stat = some value) (stages : Int32) :
    ∃ message, creature.boost stat stages =
      (.succeeded (.statChanged stat value (boostedStat value stages)) message false,
        creature.withStat stat (boostedStat value stages)) := by
  simp only [boost, h]
  exact ⟨_, rfl⟩

namespace Action

variable {σ : Type} [DrawSource σ]

/-- The action boosts a stat of the creature that it aims at: the creature is there and has the
stat, and the gate lets the action through. -/
structure Boosts (action : Action) (scene : Scene σ) (stat : StatKind) (stages : Int32)
    (creature : Creature) (value : UInt32) (source : σ) : Prop where
  kind : action.kind = .boostStat stat stages
  gate : action.gate scene.context scene.source = .ok .passed source
  present : scene.context.target? action.target = some creature
  value : creature.stats.get? stat = some value

variable {action : Action} {scene : Scene σ} {stat : StatKind} {stages : Int32}
  {creature : Creature} {value : UInt32} {source : σ}

theorem Boosts.execute (h : action.Boosts scene stat stages creature value source) :
    ∃ report, action.execute scene =
        .ok report ⟨scene.context.update action.target
          (creature.withStat stat (boostedStat value stages)), source⟩ ∧
      report.success = true ∧
      report.change = .statChanged stat value (boostedStat value stages) := by
  have hchange : action.kind.creatureChange? = some fun creature =>
      .done (creature.boost stat stages) := by
    rw [h.kind]
    rfl
  obtain ⟨message, hboost⟩ := Creature.boost_of_present h.value stages
  have hrun := execute_of_creatureChange? hchange h.gate h.present (congrArg Application.done hboost)
  exact ⟨_, hrun, rfl, rfl⟩

/-- **A boosted stat follows the curve, but for whole numbers that are missed on the way down.** A
boost that is let through succeeds, sets the stat and reports it. Upwards the stat is the exact one,
rounded down and clamped to a word. Downwards it is the exact one, rounded down, or one less: this
happens where the exact one is a whole number and so many parts of the rounded reciprocal fall short
of it, and it does not happen down to 46 stages. -/
theorem boost_follows_curve (h : action.Boosts scene stat stages creature value source) :
    let stretch := 2 + stages.toInt.natAbs
    let quotient := 2 * value.toNat / stretch
    ∃ report after, action.execute scene =
        .ok report ⟨scene.context.update action.target (creature.withStat stat after), source⟩ ∧
      report.success = true ∧
      report.change = .statChanged stat value after ∧
      (0 ≤ stages → after.toNat = min (value.toNat * stretch / 2) (UInt32.size - 1)) ∧
      (stages < 0 → after.toNat =
        if stretch ∣ 2 * value.toNat ∧ FallsShort stretch quotient then quotient - 1
        else quotient) ∧
      (-46 ≤ stages → stages < 0 → after.toNat = quotient) := by
  intro stretch quotient
  obtain ⟨report, hrun, hsuccess, hchange⟩ := h.execute
  refine ⟨report, _, hrun, hsuccess, hchange, toNat_boostedStat_of_nonneg value,
    toNat_boostedStat_of_neg value, fun hfew hneg => ?_⟩
  have hstretch : stretch ≤ 48 := by
    rw [Int32.le_iff_toInt_le] at hfew
    rw [Int32.lt_iff_toInt_lt] at hneg
    have hbound : (-46 : Int32).toInt = -46 := by decide
    have hzero : (0 : Int32).toInt = 0 := by decide
    omega
  have hexact : ¬FallsShort stretch quotient :=
    not_fallsShort (Nat.lt_of_lt_of_le Nat.two_pos (Nat.le_add_right 2 _)) hstretch quotient
  rw [toNat_boostedStat_of_neg value hneg, if_neg fun hmissed => hexact hmissed.2]

/-- Down by one stage from 100, and up by two from a value that a word does not hold twice. -/
theorem boost_follows_curve_growl :
    let creature : Creature := { stats := { attack := some 100, speed := some 3000000000 } }
    let scene : Scene Recorded := ⟨{ creature }, { words := [] }⟩
    let growl : Action := { kind := .boostStat .attack (-1) }
    let agility : Action := { kind := .boostStat .speed 2 }
    growl.Boosts scene .attack (-1) creature 100 scene.source ∧
      agility.Boosts scene .speed 2 creature 3000000000 scene.source ∧
      (∃ report after, growl.execute scene =
          .ok report ⟨{ creature := creature.withStat .attack after }, scene.source⟩ ∧
        after.toNat = 66) ∧
      ∃ report after, agility.execute scene =
          .ok report ⟨{ creature := creature.withStat .speed after }, scene.source⟩ ∧
        after.toNat = UInt32.size - 1 := by
  intro creature scene growl agility
  have hgrowl : growl.Boosts scene .attack (-1) creature 100 scene.source := ⟨rfl, rfl, rfl, rfl⟩
  have hagility : agility.Boosts scene .speed 2 creature 3000000000 scene.source :=
    ⟨rfl, rfl, rfl, rfl⟩
  refine ⟨hgrowl, hagility, ?_, ?_⟩
  · obtain ⟨report, after, hrun, -, -, -, -, hfew⟩ := boost_follows_curve hgrowl
    exact ⟨report, after, hrun, hfew (by decide) (by decide)⟩
  · obtain ⟨report, after, hrun, -, -, hup, -⟩ := boost_follows_curve hagility
    exact ⟨report, after, hrun, hup (by decide)⟩

/-- **47 stages take an attack of 49 to 1, where the curve gives 2 exactly.** The divisor is 49, and
twice the value is 98. -/
theorem boost_falls_short_of_curve :
    let creature : Creature := { stats := { attack := some 49 } }
    let scene : Scene Recorded := ⟨{ creature }, { words := [] }⟩
    let action : Action := { kind := .boostStat .attack (-47) }
    (∃ report, action.execute scene =
        .ok report ⟨{ creature := creature.withStat .attack 1 }, scene.source⟩) ∧
      2 * 49 / (2 + (-47 : Int32).toInt.natAbs) = 2 := by
  intro creature scene action
  have hboosts : action.Boosts scene .attack (-47) creature 49 scene.source := ⟨rfl, rfl, rfl, rfl⟩
  obtain ⟨report, hrun, -⟩ := hboosts.execute
  have hlowered : boostedStat 49 (-47) = 1 := by decide +kernel
  rw [hlowered] at hrun
  exact ⟨⟨report, hrun⟩, by decide⟩

/-- **Boosts keep the order.** A boost that is let through leaves `boostedStat value stages`, and
this grows with the value and with the stages, over all words and across the change of sign. Without
stages a stat stays what it is, so stages upwards never lower it and stages downwards never raise
it. -/
theorem boosts_are_monotone :
    (∀ (action : Action) (scene : Scene σ) stat stages creature value source,
        action.Boosts scene stat stages creature value source →
        ∃ report, action.execute scene =
          .ok report ⟨scene.context.update action.target
            (creature.withStat stat (boostedStat value stages)), source⟩) ∧
      (∀ value larger weaker stronger, value ≤ larger → weaker ≤ stronger →
        boostedStat value weaker ≤ boostedStat larger stronger) ∧
      (∀ value, boostedStat value 0 = value) ∧
      (∀ value stages, 0 ≤ stages → value ≤ boostedStat value stages) ∧
      (∀ value stages, stages ≤ 0 → boostedStat value stages ≤ value) := by
  refine ⟨?_, ?_, boostedStat_zero, ?_, ?_⟩
  · intro action scene stat stages creature value source h
    obtain ⟨report, hrun, -⟩ := h.execute
    exact ⟨report, hrun⟩
  · intro value larger weaker stronger hvalue hstages
    exact boostedStat_mono hvalue hstages
  · intro value stages hstages
    calc value = boostedStat value 0 := (boostedStat_zero value).symm
      _ ≤ boostedStat value stages := boostedStat_mono (UInt32.le_refl value) hstages
  · intro value stages hstages
    calc boostedStat value stages ≤ boostedStat value 0 :=
          boostedStat_mono (UInt32.le_refl value) hstages
      _ = value := boostedStat_zero value

/-- The lowest boost of a small stat, and the highest of the largest. -/
theorem boosts_are_monotone_extremes :
    let creature : Creature := { stats := { attack := some 100 } }
    let scene : Scene Recorded := ⟨{ creature }, { words := [] }⟩
    let action : Action := { kind := .boostStat .attack Int32.minValue }
    action.Boosts scene .attack Int32.minValue creature 100 scene.source ∧
      (∃ report, action.execute scene = .ok report
        ⟨{ creature := creature.withStat .attack (boostedStat 100 Int32.minValue) },
          scene.source⟩) ∧
      boostedStat 100 Int32.minValue ≤ 100 ∧
      boostedStat 100 Int32.minValue ≤ boostedStat 4294967295 Int32.maxValue := by
  intro creature scene action
  have hboosts : action.Boosts scene .attack Int32.minValue creature 100 scene.source :=
    ⟨rfl, rfl, rfl, rfl⟩
  obtain ⟨hruns, hmono, -, -, hdown⟩ := @boosts_are_monotone Recorded _
  exact ⟨hboosts, hruns _ _ _ _ _ _ _ hboosts, hdown _ _ (by decide),
    hmono _ _ _ _ (by decide) (by decide)⟩

end Action

end BattleItems
