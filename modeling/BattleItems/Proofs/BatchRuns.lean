import Mathlib.Data.List.Forall2
import BattleItems.Proofs.Outcomes

/-!
# BattleItems.Proofs.BatchRuns

Which effects a batch runs, in which order, and where it stops.

The order is pinned down without a sorting algorithm: priorities never rise, and the effects of one
priority stand as they were declared (`Batch.InOrder`). There is one such list, and it is the one
that is run. The stop is pinned down by the run that never stops (`Batch.steps`): what a batch does
is that run cut off behind its first critical failure (`Batch.untilCritical`).

Comparisons of priorities are stated over the integers, so nothing depends on how words compare.
-/

namespace BattleItems

namespace Batch

/-! ### The order -/

/-- The order in which the effects of a trigger are run. -/
structure InOrder (effects : List Effect) (trigger : Trigger) (order : List Effect) : Prop where
  falling : order.Pairwise fun a b => b.priority.toInt ≤ a.priority.toInt
  stable (priority : Int32) : order.filter (·.priority = priority) =
    effects.filter fun effect => effect.trigger = trigger ∧ effect.priority = priority

variable {effects order other : List Effect} {trigger : Trigger}

theorem selected_perm (effects : List Effect) (trigger : Trigger) :
    (selected effects trigger).Perm (effects.filter (·.trigger = trigger)) :=
  List.mergeSort_perm ..

theorem mem_selected {effect : Effect} :
    effect ∈ selected effects trigger ↔ effect ∈ effects ∧ effect.trigger = trigger := by
  rw [(selected_perm effects trigger).mem_iff]
  simp

theorem nodup_selected (h : (effects.map (·.id)).Nodup) (trigger : Trigger) :
    ((selected effects trigger).map (·.id)).Nodup := by
  rw [((selected_perm effects trigger).map (·.id)).nodup_iff]
  exact h.sublist (List.filter_sublist.map _)

theorem selected_inOrder (effects : List Effect) (trigger : Trigger) :
    InOrder effects trigger (selected effects trigger) := by
  have htrans : ∀ a b c : Effect, decide (b.priority ≤ a.priority) →
      decide (c.priority ≤ b.priority) → decide (c.priority ≤ a.priority) := by
    intro a b c hab hbc
    simp only [decide_eq_true_eq] at hab hbc ⊢
    exact Int32.le_trans hbc hab
  have htotal : ∀ a b : Effect,
      decide (b.priority ≤ a.priority) || decide (a.priority ≤ b.priority) := by
    intro a b
    simpa [Bool.or_eq_true] using Int32.le_total b.priority a.priority
  constructor
  · have hsorted := List.pairwise_mergeSort htrans htotal (effects.filter (·.trigger = trigger))
    refine hsorted.imp fun {a b} h => ?_
    simpa [Int32.le_iff_toInt_le] using h
  · intro priority
    -- The effects of one priority are a sorted sublist, and sorting keeps those as they are.
    have hsub : ((effects.filter (·.trigger = trigger)).filter (·.priority = priority)).Sublist
        (selected effects trigger) := by
      refine List.sublist_mergeSort htrans htotal ?_ List.filter_sublist
      refine List.pairwise_of_forall_mem_list fun a ha b hb => ?_
      simp only [List.mem_filter, decide_eq_true_eq] at ha hb
      simp [ha.2, hb.2]
    have hlength := ((selected_perm effects trigger).filter (·.priority = priority)).length_eq
    have heq := (hsub.filter (·.priority = priority)).eq_of_length
      (by simpa [List.filter_filter] using hlength.symm)
    simpa [List.filter_filter, and_comm] using heq.symm

/-- A list whose priorities never rise is known once it is known priority by priority. -/
theorem eq_of_falling : ∀ {order other : List Effect},
    (order.Pairwise fun a b => b.priority.toInt ≤ a.priority.toInt) →
    (other.Pairwise fun a b => b.priority.toInt ≤ a.priority.toInt) →
    (∀ priority : Int32, order.filter (·.priority = priority) =
      other.filter (·.priority = priority)) → order = other
  | [], [], _, _, _ => rfl
  | [], b :: _, _, _, hsame => by simpa using hsame b.priority
  | a :: _, [], _, _, hsame => by simpa using hsame a.priority
  | a :: order, b :: other, ha, hb, hsame => by
      have hmem : ∀ effect, effect ∈ a :: order ↔ effect ∈ b :: other := by
        intro effect
        have h := congrArg (effect ∈ ·) (hsame effect.priority)
        simpa only [List.mem_filter, decide_true, and_true, eq_iff_iff] using h
      -- Each head is in the other list as well, and no priority there is above that of its head.
      have hle : b.priority.toInt ≤ a.priority.toInt := by
        rcases List.mem_cons.mp ((hmem b).mpr List.mem_cons_self) with rfl | h
        · exact Int.le_refl _
        · exact (List.pairwise_cons.mp ha).1 b h
      have hge : a.priority.toInt ≤ b.priority.toInt := by
        rcases List.mem_cons.mp ((hmem a).mp List.mem_cons_self) with rfl | h
        · exact Int.le_refl _
        · exact (List.pairwise_cons.mp hb).1 a h
      have hpriority : a.priority = b.priority := Int32.toInt_inj.mp (Int.le_antisymm hge hle)
      have hhead := hsame a.priority
      simp only [List.filter_cons, hpriority, decide_true, if_true, List.cons.injEq] at hhead
      obtain ⟨rfl, -⟩ := hhead
      refine congrArg (a :: ·) (eq_of_falling ha.of_cons hb.of_cons fun priority => ?_)
      have h := hsame priority
      simp only [List.filter_cons] at h
      split at h
      · exact (List.cons.inj h).2
      · exact h

theorem InOrder.unique (horder : InOrder effects trigger order)
    (hother : InOrder effects trigger other) : order = other :=
  eq_of_falling horder.falling hother.falling fun priority => by
    rw [horder.stable, hother.stable]

/-- What is run is the one list in the order of the batch. -/
theorem inOrder_iff : InOrder effects trigger order ↔ order = selected effects trigger := by
  constructor
  · intro h
    exact h.unique (selected_inOrder effects trigger)
  · rintro rfl
    exact selected_inOrder effects trigger

/-! ### The stop -/

/-- A failure that stops a batch. -/
def IsCriticalFailure (settings : Settings) (effect : Effect) (report : EffectReport) : Prop :=
  report.success = false ∧ settings.criticalPriority.toInt < effect.priority.toInt

instance (settings : Settings) (effect : Effect) (report : EffectReport) :
    Decidable (IsCriticalFailure settings effect report) :=
  inferInstanceAs (Decidable (_ ∧ _))

variable {σ : Type} [DrawSource σ]
variable {settings : Settings} {ledger : Ledger} {effect : Effect} {rest : List Effect}
  {report : EffectReport} {reports : List EffectReport} {scene after mid : Scene σ} {k : Nat}

theorem halts_eq_decide (settings : Settings) (effect : Effect) (report : EffectReport) :
    (!report.success && settings.isCritical effect.priority) =
      decide (IsCriticalFailure settings effect report) := by
  cases h : report.success <;>
    simp [Settings.isCritical, IsCriticalFailure, h, Int32.lt_iff_toInt_lt]

theorem runAll_cons_of_critical (hrun : effect.process ledger scene = (report, after))
    (hcritical : IsCriticalFailure settings effect report) :
    runAll settings ledger (effect :: rest) scene = ([report], after) := by
  simp only [runAll, hrun, halts_eq_decide, hcritical, decide_true, if_true]

theorem runAll_cons_of_not_critical (hrun : effect.process ledger scene = (report, after))
    (hcritical : ¬IsCriticalFailure settings effect report) :
    runAll settings ledger (effect :: rest) scene =
      (report :: (runAll settings ledger rest after).1, (runAll settings ledger rest after).2) := by
  simp only [runAll, hrun, halts_eq_decide, hcritical, decide_false, Bool.false_eq_true, if_false]

/-- Behind effects that all ran and of which none failed critically the batch goes on. -/
theorem runAll_append {before : List Effect}
    (hrun : runAll settings ledger before scene = (reports, mid))
    (hpassed : List.Forall₂ (fun effect report => ¬IsCriticalFailure settings effect report)
      before reports) :
    runAll settings ledger (before ++ rest) scene =
      (reports ++ (runAll settings ledger rest mid).1, (runAll settings ledger rest mid).2) := by
  induction before generalizing scene reports with
  | nil =>
      cases hrun
      rfl
  | cons first before ih =>
      rcases hfirst : first.process ledger scene with ⟨report, after⟩
      by_cases hcritical : IsCriticalFailure settings first report
      · rw [runAll_cons_of_critical hfirst hcritical] at hrun
        obtain ⟨rfl, rfl⟩ := Prod.mk.inj hrun
        cases hpassed with
        | cons hnot _ => exact absurd hcritical hnot
      · rw [runAll_cons_of_not_critical hfirst hcritical] at hrun
        obtain ⟨rfl, hmid⟩ := Prod.mk.inj hrun
        cases hpassed with
        | cons _ hpassed =>
            rw [List.cons_append, runAll_cons_of_not_critical hfirst hcritical,
              ih (Prod.ext rfl hmid) hpassed, List.cons_append]

/-- What every effect of a batch keeps, the batch keeps, and every report is made in a scene that
still has it. -/
theorem runAll_keeps (settings : Settings) (ledger : Ledger) (order : List Effect)
    {I : Scene σ → Prop}
    (hkeep : ∀ effect ∈ order, ∀ scene, I scene → I (effect.process ledger scene).2)
    (hstart : I scene) :
    I (runAll settings ledger order scene).2 ∧
      ∀ report ∈ (runAll settings ledger order scene).1, ∃ effect ∈ order, ∃ mid after,
        I mid ∧ effect.process ledger mid = (report, after) := by
  induction order generalizing scene with
  | nil => exact ⟨hstart, by simp [runAll]⟩
  | cons effect rest ih =>
      rcases hrun : effect.process ledger scene with ⟨report, after⟩
      have hafter : I after := by
        have h := hkeep effect List.mem_cons_self scene hstart
        rwa [hrun] at h
      by_cases hcritical : IsCriticalFailure settings effect report
      · rw [runAll_cons_of_critical hrun hcritical]
        refine ⟨hafter, fun made hmade => ?_⟩
        obtain rfl := List.mem_singleton.mp hmade
        exact ⟨effect, List.mem_cons_self, scene, after, hstart, hrun⟩
      · rw [runAll_cons_of_not_critical hrun hcritical]
        obtain ⟨hlast, hmade⟩ := ih (fun e he => hkeep e (List.mem_cons_of_mem _ he)) hafter
        refine ⟨hlast, fun made hmem => ?_⟩
        rcases List.mem_cons.mp hmem with rfl | hmem
        · exact ⟨effect, List.mem_cons_self, scene, after, hstart, hrun⟩
        · obtain ⟨e, he, hmid⟩ := hmade made hmem
          exact ⟨e, List.mem_cons_of_mem _ he, hmid⟩

/-- The same, in terms of the effects that a batch is handed. -/
theorem process_keeps (settings : Settings) (trigger : Trigger) (ledger : Ledger)
    {I : Scene σ → Prop}
    (hkeep : ∀ effect ∈ effects, ∀ scene, I scene → I (effect.process ledger scene).2)
    (hstart : I scene) :
    I (process settings effects trigger ledger scene).2 ∧
      ∀ report ∈ (process settings effects trigger ledger scene).1, ∃ effect ∈ effects,
        ∃ mid after, I mid ∧ effect.process ledger mid = (report, after) := by
  obtain ⟨hlast, hreports⟩ := runAll_keeps settings ledger (selected effects trigger)
    (fun effect heffect => hkeep effect (mem_selected.mp heffect).1) hstart
  refine ⟨hlast, fun report hreport => ?_⟩
  obtain ⟨effect, heffect, hmid⟩ := hreports report hreport
  exact ⟨effect, (mem_selected.mp heffect).1, hmid⟩

/-! ### The reports -/

/-- One report for each effect that ran, with its id, in the order of the batch. -/
theorem runAll_reports (settings : Settings) (ledger : Ledger) (order : List Effect)
    (scene : Scene σ) :
    (runAll settings ledger order scene).1.length ≤ order.length ∧
      (runAll settings ledger order scene).1.map (·.effect) =
        (order.take (runAll settings ledger order scene).1.length).map (·.id) := by
  induction order generalizing scene with
  | nil => exact ⟨Nat.le_refl _, rfl⟩
  | cons effect rest ih =>
      rcases hrun : effect.process ledger scene with ⟨report, after⟩
      have hid : report.effect = effect.id := by
        simpa [hrun] using effect.process_effect ledger scene
      by_cases hcritical : IsCriticalFailure settings effect report
      · rw [runAll_cons_of_critical hrun hcritical]
        simp [hid]
      · rw [runAll_cons_of_not_critical hrun hcritical]
        obtain ⟨hlength, hids⟩ := ih after
        exact ⟨Nat.succ_le_succ hlength, by simp [hid, hids]⟩

/-- A batch goes on behind a report only if that is no critical failure. -/
theorem not_critical_of_runAll (hlt : k + 1 < (runAll settings ledger order scene).1.length)
    (heffect : order[k]? = some effect)
    (hreport : (runAll settings ledger order scene).1[k]? = some report) :
    ¬IsCriticalFailure settings effect report := by
  induction order generalizing scene k with
  | nil => simp at heffect
  | cons first rest ih =>
      rcases hrun : first.process ledger scene with ⟨made, after⟩
      by_cases hcritical : IsCriticalFailure settings first made
      · rw [runAll_cons_of_critical hrun hcritical] at hlt
        simp at hlt
      · rw [runAll_cons_of_not_critical hrun hcritical] at hlt hreport
        cases k with
        | zero =>
            obtain rfl := Option.some.inj heffect
            obtain rfl := Option.some.inj hreport
            exact hcritical
        | succ k => exact ih (Nat.lt_of_succ_lt_succ hlt) heffect hreport

/-- A batch leaves effects out only behind a critical failure. -/
theorem last_critical_of_runAll
    (hlt : (runAll settings ledger order scene).1.length < order.length) :
    ∃ effect report, order[(runAll settings ledger order scene).1.length - 1]? = some effect ∧
      (runAll settings ledger order scene).1.getLast? = some report ∧
      IsCriticalFailure settings effect report := by
  induction order generalizing scene with
  | nil => simp at hlt
  | cons first rest ih =>
      rcases hrun : first.process ledger scene with ⟨made, after⟩
      by_cases hcritical : IsCriticalFailure settings first made
      · rw [runAll_cons_of_critical hrun hcritical]
        exact ⟨first, made, rfl, rfl, hcritical⟩
      · rw [runAll_cons_of_not_critical hrun hcritical] at hlt ⊢
        obtain ⟨effect, report, heffect, hreport, hlast⟩ := ih (Nat.lt_of_succ_lt_succ hlt)
        refine ⟨effect, report, ?_, by rw [List.getLast?_cons, hreport]; rfl, hlast⟩
        -- A last report means that there is one, so the index of it moves on by one.
        obtain ⟨others, hothers⟩ := List.getLast?_eq_some_iff.mp hreport
        simpa [hothers] using heffect

/-! ### The run that never stops, and where it is cut off -/

/-- An effect that was run, its report, and the scene that it left. -/
structure Step (σ : Type) where
  effect : Effect
  report : EffectReport
  after : Scene σ

/-- Every effect in turn, each in the scene that the one before it left, whatever it reports. -/
def steps (ledger : Ledger) : List Effect → Scene σ → List (Step σ)
  | [], _ => []
  | effect :: rest, scene =>
    let (report, after) := effect.process ledger scene
    ⟨effect, report, after⟩ :: steps ledger rest after

/-- The steps up to the first critical failure, it included: their reports, and the scene that the
last of them left. -/
def untilCritical (settings : Settings) (ledger : Ledger) (order : List Effect)
    (scene : Scene σ) : List EffectReport × Scene σ :=
  let all := steps ledger order scene
  let stop := all.findIdx fun step => IsCriticalFailure settings step.effect step.report
  let kept := all.take (stop + 1)
  (kept.map (·.report), (kept.getLast?.map (·.after)).getD scene)

theorem runAll_eq_untilCritical (settings : Settings) (ledger : Ledger) (order : List Effect)
    (scene : Scene σ) :
    runAll settings ledger order scene = untilCritical settings ledger order scene := by
  induction order generalizing scene with
  | nil => rfl
  | cons effect rest ih =>
      rcases hrun : effect.process ledger scene with ⟨report, after⟩
      by_cases hcritical : IsCriticalFailure settings effect report
      · rw [runAll_cons_of_critical hrun hcritical]
        simp [untilCritical, steps, hrun, hcritical, List.findIdx_cons]
      · rw [runAll_cons_of_not_critical hrun hcritical, ih]
        simp only [untilCritical, steps, hrun, List.findIdx_cons, hcritical, decide_false,
          cond_false, List.take_succ_cons, List.map_cons, List.getLast?_cons, Option.map_some,
          Option.getD_some]
        cases ((steps ledger rest after).take _).getLast? <;> rfl

/-- **What a batch is.** The effects of the trigger are run in the one order that
`Batch.InOrder` describes, each in the scene that the one before it left, up to the first critical
failure. So there is one report for each effect that ran; only the last of them can be a critical
failure, and it is one if effects were left out. -/
theorem process_eq_untilCritical (settings : Settings) (effects : List Effect) (trigger : Trigger)
    (ledger : Ledger) (scene : Scene σ) :
    ∃ order, (∀ other, InOrder effects trigger other ↔ other = order) ∧
      process settings effects trigger ledger scene = untilCritical settings ledger order scene ∧
      let reports := (process settings effects trigger ledger scene).1
      reports.length ≤ order.length ∧
      reports.map (·.effect) = (order.take reports.length).map (·.id) ∧
      (∀ k effect report, order[k]? = some effect → reports[k]? = some report →
        k + 1 < reports.length → ¬IsCriticalFailure settings effect report) ∧
      (reports.length < order.length → ∃ effect report,
        order[reports.length - 1]? = some effect ∧ reports.getLast? = some report ∧
          IsCriticalFailure settings effect report) := by
  obtain ⟨hlength, hids⟩ := runAll_reports settings ledger (selected effects trigger) scene
  refine ⟨selected effects trigger, fun other => inOrder_iff,
    runAll_eq_untilCritical settings ledger _ scene, hlength, hids, ?_, last_critical_of_runAll⟩
  intro k effect report heffect hreport hlt
  exact not_critical_of_runAll hlt heffect hreport

end Batch

end BattleItems
