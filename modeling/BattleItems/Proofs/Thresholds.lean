import Mathlib.Data.List.Infix
import Mathlib.Data.List.Permutation
import BattleItems.Proofs.BatchRuns

/-!
# BattleItems.Proofs.Thresholds

What the critical threshold does to a batch.

Two batches that differ in the threshold alone go through the same effects in the same scenes until
the one with the lower threshold stops: what stops the higher one would have stopped it as well
(`Batch.IsCriticalFailure.mono`). So a higher threshold adds reports behind those of the lower one,
and if it adds none there was nothing for the lower one to stop at.
-/

namespace BattleItems

namespace Batch

variable {σ : Type} [DrawSource σ]
variable {low high : Settings} {ledger : Ledger} {effect : Effect} {order : List Effect}
  {report : EffectReport} {scene : Scene σ}

/-- A failure above the higher threshold is above the lower one too. -/
theorem IsCriticalFailure.mono (hle : low.criticalPriority.toInt ≤ high.criticalPriority.toInt)
    (h : IsCriticalFailure high effect report) : IsCriticalFailure low effect report :=
  ⟨h.1, Int.lt_of_le_of_lt hle h.2⟩

theorem runAll_extends (hle : low.criticalPriority.toInt ≤ high.criticalPriority.toInt)
    (ledger : Ledger) (order : List Effect) (scene : Scene σ) :
    (runAll low ledger order scene).1 <+: (runAll high ledger order scene).1 := by
  induction order generalizing scene with
  | nil => exact List.prefix_rfl
  | cons effect rest ih =>
      rcases hrun : effect.process ledger scene with ⟨report, after⟩
      by_cases hlow : IsCriticalFailure low effect report
      · rw [runAll_cons_of_critical hrun hlow]
        -- The lower one ends here; the higher one reports the same and may go on.
        by_cases hhigh : IsCriticalFailure high effect report
        · rw [runAll_cons_of_critical hrun hhigh]
        · rw [runAll_cons_of_not_critical hrun hhigh]
          exact List.prefix_append [report] _
      · have hhigh : ¬IsCriticalFailure high effect report := fun h => hlow (h.mono hle)
        rw [runAll_cons_of_not_critical hrun hlow, runAll_cons_of_not_critical hrun hhigh]
        exact (List.prefix_cons_inj report).mpr (ih after)

/-- Where the higher threshold meets no failure that is critical for the lower one, the two batches
are one. -/
theorem runAll_eq_of_not_critical
    (hle : low.criticalPriority.toInt ≤ high.criticalPriority.toInt)
    (hpassed : ∀ (k : Nat) effect report, order[k]? = some effect →
      (runAll high ledger order scene).1[k]? = some report →
      ¬IsCriticalFailure low effect report) :
    runAll low ledger order scene = runAll high ledger order scene := by
  induction order generalizing scene with
  | nil => rfl
  | cons effect rest ih =>
      rcases hrun : effect.process ledger scene with ⟨report, after⟩
      have hlow : ¬IsCriticalFailure low effect report := by
        refine hpassed 0 effect report rfl ?_
        by_cases hhigh : IsCriticalFailure high effect report
        · rw [runAll_cons_of_critical hrun hhigh]
          rfl
        · rw [runAll_cons_of_not_critical hrun hhigh]
          rfl
      have hhigh : ¬IsCriticalFailure high effect report := fun h => hlow (h.mono hle)
      rw [runAll_cons_of_not_critical hrun hhigh] at hpassed
      have hrest : runAll low ledger rest after = runAll high ledger rest after :=
        ih fun k later made hlater hmade => hpassed (k + 1) later made hlater hmade
      rw [runAll_cons_of_not_critical hrun hlow, runAll_cons_of_not_critical hrun hhigh, hrest]

/-- **A higher threshold only extends a batch.** The reports at the lower threshold begin those at
the higher one; and if no effect of a priority above the lower threshold fails at the higher one,
the two give the same reports, the same context and the same source. -/
theorem process_extends_with_threshold (low high : Settings) (effects : List Effect)
    (trigger : Trigger) (ledger : Ledger) (scene : Scene σ)
    (hle : low.criticalPriority.toInt ≤ high.criticalPriority.toInt) :
    let early := process low effects trigger ledger scene
    let late := process high effects trigger ledger scene
    early.1 <+: late.1 ∧
      ((∀ (k : Nat) effect report, (selected effects trigger)[k]? = some effect →
          late.1[k]? = some report → report.success = false →
          effect.priority.toInt ≤ low.criticalPriority.toInt) →
        early = late) := by
  refine ⟨runAll_extends hle ledger _ scene, fun hquiet => ?_⟩
  refine runAll_eq_of_not_critical hle fun k effect report heffect hreport hcritical => ?_
  exact Int.not_lt.mpr (hquiet k effect report heffect hreport hcritical.1) hcritical.2

/-- A song, a cure with nothing to cure and a meal, by falling priority. At the threshold 100 the
cure stops the batch, at 200 it does not; and as the song comes off, nothing changes from 200 to
300. -/
theorem process_extends_with_threshold_song :
    let song : Effect := {
      id := "song", trigger := .onUse, priority := 250, actions := [{ kind := .consumeItem }] }
    let cure : Effect := {
      id := "cure", trigger := .onUse, priority := 150, actions := [{ kind := .cureStatus none }] }
    let meal : Effect := { id := "meal", trigger := .onUse, actions := [{ kind := .healFixed 5 }] }
    let scene : Scene Recorded := ⟨{ creature := { hp := 10, maxHp := 20 } }, { words := [] }⟩
    let batch (threshold : Int32) := process ⟨threshold⟩ [meal, cure, song] .onUse {} scene
    (batch 100).1.map (·.success) = [true, false] ∧
      (batch 200).1.map (·.success) = [true, false, true] ∧
      (batch 100).1 <+: (batch 200).1 ∧ batch 200 = batch 300 := by
  intro song cure meal scene batch
  have hselected : selected [meal, cure, song] .onUse = [song, cure, meal] := by cbv
  have hbatch : ∀ threshold, batch threshold = runAll ⟨threshold⟩ {} [song, cure, meal] scene :=
    fun threshold => congrArg (runAll ⟨threshold⟩ {} · scene) hselected
  have hlow : (batch 100).1.map (·.success) = [true, false] := by
    rw [hbatch]
    decide +kernel
  have hhigh : (batch 200).1.map (·.success) = [true, false, true] := by
    rw [hbatch]
    decide +kernel
  have hhigher : (batch 300).1.map (·.success) = [true, false, true] := by
    rw [hbatch]
    decide +kernel
  refine ⟨hlow, hhigh,
    (process_extends_with_threshold ⟨100⟩ ⟨200⟩ _ _ _ _ (by decide)).1,
    (process_extends_with_threshold ⟨200⟩ ⟨300⟩ _ _ _ _ (by decide)).2 ?_⟩
  intro k effect report heffect hreport hfailed
  rw [hselected] at heffect
  cases k with
  | zero =>
      have hsuccess := congrArg (·[0]?) hhigher
      have hreport : (batch 300).1[0]? = some report := hreport
      simp [hreport, hfailed] at hsuccess
  | succ k =>
      have hmem : effect ∈ [cure, meal] := List.mem_of_getElem? heffect
      have hquiet : ∀ effect ∈ [cure, meal], effect.priority.toInt ≤ (200 : Int32).toInt := by
        decide
      exact hquiet effect hmem

end Batch

end BattleItems
