import Mathlib.Dynamics.PeriodicPts.Lemmas
import Mathlib.NumberTheory.Multiplicity
import BattleItems.Proofs.Draws

/-!
# BattleItems.Proofs.PcgPeriod

The generator runs through all of its states before it comes back to one.

The step of the state is affine modulo `2⁶⁴`. Behind `n` steps the state has moved by the distance of
the first step, `Pcg.drift`, times the sum of the first `n` powers of the multiplier
(`Pcg.toNat_iterate_advance`). The distance is odd, because the multiplier and the increment are, and
so the sum alone decides whether the state is back. As the multiplier leaves one over a multiple of
four, two divides the sum exactly as often as it divides `n` (`emultiplicity_geom_sum`).
-/

namespace BattleItems

open Finset Function

/-! ### Sums of powers -/

/-- Two divides the sum of the first powers as often as it divides their number. -/
theorem emultiplicity_geom_sum {a : ℤ} (hfour : 4 ∣ a - 1) (hne : a ≠ 1) (n : ℕ) :
    emultiplicity 2 (∑ i ∈ range n, a ^ i) = emultiplicity (2 : ℤ) n := by
  have hodd : ¬ 2 ∣ a := by omega
  have hpower := Int.two_pow_sub_pow' n hfour hodd
  rw [one_pow, ← geom_sum_mul, emultiplicity_mul Int.prime_two, add_comm] at hpower
  have hfinite : emultiplicity 2 (a - 1) ≠ ⊤ := by
    rw [← finiteMultiplicity_iff_emultiplicity_ne_top, Int.finiteMultiplicity_iff]
    exact ⟨by decide, sub_ne_zero.mpr hne⟩
  exact ENat.add_right_injective_of_ne_top hfinite hpower

theorem two_pow_dvd_geom_sum_iff {a : ℤ} (hfour : 4 ∣ a - 1) (hne : a ≠ 1) (k n : ℕ) :
    2 ^ k ∣ ∑ i ∈ range n, a ^ i ↔ 2 ^ k ∣ n := by
  rw [pow_dvd_iff_le_emultiplicity, emultiplicity_geom_sum hfour hne,
    ← pow_dvd_iff_le_emultiplicity]
  exact_mod_cast Iff.rfl

namespace Pcg

/-! ### Steps of the state -/

/-- How far the next step moves a state, before the sum is reduced to a word. -/
def drift (state : UInt64) : ℤ :=
  (multiplier.toNat - 1) * state.toNat + increment.toNat

theorem four_dvd_multiplier_sub_one : (4 : ℤ) ∣ multiplier.toNat - 1 := by decide

theorem drift_odd (state : UInt64) : ¬ 2 ∣ drift state := by
  have hincrement : ¬ (2 : ℤ) ∣ increment.toNat := by decide
  have hmultiplier : (2 : ℤ) ∣ (multiplier.toNat - 1) * state.toNat :=
    ((by decide : (2 : ℤ) ∣ 4).trans four_dvd_multiplier_sub_one).mul_right _
  rwa [drift, Int.dvd_add_right hmultiplier]

theorem toNat_advance (state : UInt64) :
    ((advance state).toNat : ℤ) ≡
      state.toNat * multiplier.toNat + increment.toNat [ZMOD 2 ^ 64] := by
  rw [advance, UInt64.toNat_add, UInt64.toNat_mul]
  push_cast
  exact (Int.mod_modEq _ _).trans ((Int.mod_modEq _ _).add_right _)

/-- Behind any number of steps, the distances of the single ones are the powers of the multiplier
times that of the first. -/
theorem toNat_iterate_advance (state : UInt64) (n : ℕ) :
    ((advance^[n] state).toNat : ℤ) ≡
      state.toNat + (∑ i ∈ range n, (multiplier.toNat : ℤ) ^ i) * drift state [ZMOD 2 ^ 64] := by
  induction n with
  | zero => simp
  | succ n ih =>
      rw [iterate_succ_apply']
      refine (toNat_advance _).trans (((ih.mul_right _).add_right _).trans ?_)
      rw [geom_sum_succ, drift]
      exact congrArg (· % (2 : ℤ) ^ 64) (by ring)

/-- A state is back behind the multiples of `2⁶⁴` steps, and never in between. -/
theorem isPeriodicPt_advance_iff (state : UInt64) (n : ℕ) :
    IsPeriodicPt advance n state ↔ 2 ^ 64 ∣ n := by
  have hne : (multiplier.toNat : ℤ) ≠ 1 := by decide
  -- Both are words, so they are the same as soon as they agree modulo `2⁶⁴`.
  have hsame : advance^[n] state = state ↔
      ((advance^[n] state).toNat : ℤ) ≡ state.toNat [ZMOD 2 ^ 64] := by
    have hbound := (advance^[n] state).toNat_lt
    have hstate := state.toNat_lt
    rw [← UInt64.toNat_inj, Int.ModEq]
    omega
  have hmoved := toNat_iterate_advance state n
  calc advance^[n] state = state
      ↔ state.toNat ≡ state.toNat + (∑ i ∈ range n, (multiplier.toNat : ℤ) ^ i) * drift state
          [ZMOD 2 ^ 64] := hsame.trans ⟨fun h => h.symm.trans hmoved, fun h => hmoved.trans h.symm⟩
    _ ↔ 2 ^ 64 ∣ (∑ i ∈ range n, (multiplier.toNat : ℤ) ^ i) * drift state := by
        rw [Int.modEq_iff_dvd, add_sub_cancel_left]
    _ ↔ (2 : ℤ) ^ 64 ∣ ∑ i ∈ range n, (multiplier.toNat : ℤ) ^ i :=
        ⟨fun h => Int.prime_two.pow_dvd_of_dvd_mul_right 64 (drift_odd state) h,
          fun h => h.mul_right _⟩
    _ ↔ 2 ^ 64 ∣ n := two_pow_dvd_geom_sum_iff four_dvd_multiplier_sub_one hne 64 n

theorem minimalPeriod_advance (state : UInt64) : minimalPeriod advance state = 2 ^ 64 := by
  apply Nat.dvd_antisymm
  · exact isPeriodicPt_iff_minimalPeriod_dvd.mp ((isPeriodicPt_advance_iff state _).mpr dvd_rfl)
  · exact (isPeriodicPt_advance_iff state _).mp (isPeriodicPt_minimalPeriod advance state)

/-- From any state the steps reach every other: the first `2⁶⁴` of them are all different. -/
theorem exists_iterate_advance_eq (state other : UInt64) :
    ∃ n < 2 ^ 64, advance^[n] state = other := by
  have hinj : Injective fun n : Fin (2 ^ 64) => advance^[n] state := by
    intro m n heq
    have hperiod := minimalPeriod_advance state
    exact Fin.ext ((iterate_eq_iterate_iff_of_lt_minimalPeriod
      (by rw [hperiod]; exact m.isLt) (by rw [hperiod]; exact n.isLt)).mp heq)
  have hindices : Fin (2 ^ 64) ≃ UInt64 :=
    ⟨UInt64.ofFin, UInt64.toFin, fun _ => rfl, fun _ => rfl⟩
  obtain ⟨n, hn⟩ := hinj.surjective_of_finite hindices other
  exact ⟨n, n.isLt, hn⟩

/-! ### Steps of the generator -/

theorem skip_eq_iterate (generator : Pcg) (n : ℕ) :
    skip n generator = ⟨advance^[n] generator.state⟩ := by
  induction n generalizing generator with
  | zero => rfl
  | succ n ih =>
      rw [skip, ih, iterate_succ_apply]
      rfl

/-- **The generator has its full period.** It is back at the state that it started with behind
`2⁶⁴` draws and behind no smaller number of them, and in between it has been at every state. -/
theorem full_period (generator : Pcg) :
    IsLeast {n | 0 < n ∧ skip n generator = generator} (2 ^ 64) ∧
      ∀ other : Pcg, ∃ n < 2 ^ 64, skip n generator = other := by
  have hback (n : ℕ) : skip n generator = generator ↔ 2 ^ 64 ∣ n := by
    rw [← isPeriodicPt_advance_iff generator.state, skip_eq_iterate]
    exact ⟨fun h => congrArg Pcg.state h, fun h => congrArg Pcg.mk h⟩
  refine ⟨⟨⟨by decide, (hback _).mpr dvd_rfl⟩, fun n hn => ?_⟩, fun other => ?_⟩
  · exact Nat.le_of_dvd hn.1 ((hback n).mp hn.2)
  · obtain ⟨n, hn, hreach⟩ := exists_iterate_advance_eq generator.state other.state
    exact ⟨n, hn, (skip_eq_iterate generator n).trans (congrArg Pcg.mk hreach)⟩

end Pcg

end BattleItems
