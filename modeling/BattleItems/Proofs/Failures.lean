import BattleItems.Proofs.Applications
import BattleItems.Proofs.Outcomes

/-!
# BattleItems.Proofs.Failures

What fails leaves the context as it was.

There are many ways for an action not to come off: a condition, the gate of chance, a target or a
battle that is not there, a creature with nothing to heal or to cure, numbers out of range, a source
that panics. Each of them comes before the first write. Of the endings of an action
(`Action.execute_ending`) only one writes at all, and of the outcomes behind that one only the
successes do (`ActionKind.Outcome.eq_of_failed`). The rest follows for lists of actions and for
effects: a failure without an error is made of failures.
-/

namespace BattleItems

variable {σ : Type} [DrawSource σ]

namespace Action

variable {action : Action} {actions : List Action} {scene after : Scene σ} {report : ActionReport}
  {reports : List ActionReport}

/-- An action that fails leaves the context as it found it. -/
theorem context_of_execute_failed (h : action.execute scene = .ok report after)
    (hfailed : report.success = false) : after.context = scene.context := by
  have hend := action.execute_ending scene
  rw [h] at hend
  cases hend with
  | stopped _ => rfl
  | applied _ happly => exact (ActionKind.apply_outcome happly).eq_of_failed hfailed

/-- The report of a failure holds nothing but a message: no change, and no item spent. -/
theorem report_of_execute_failed (h : action.execute scene = .ok report after)
    (hfailed : report.success = false) :
    report = .failed action.kind.tag action.target report.message := by
  have hend := action.execute_ending scene
  rw [h] at hend
  cases hend with
  | stopped _ => rfl
  | applied _ happly =>
      obtain ⟨message, rfl⟩ := (ActionKind.apply_outcome happly).effort_of_failed hfailed
      rfl

/-- Actions that all fail leave the context as they found it. -/
theorem context_of_executeAll_failed (h : executeAll actions scene = .ok reports after)
    (hfailed : ∀ report ∈ reports, report.success = false) : after.context = scene.context := by
  induction actions generalizing scene reports with
  | nil =>
      cases h
      rfl
  | cons action rest ih =>
      obtain ⟨report, mid, others, hfirst, hrest, rfl⟩ := executeAll_cons_ok_iff.mp h
      rw [List.forall_mem_cons] at hfailed
      have hmid : mid.context = scene.context := context_of_execute_failed hfirst hfailed.1
      exact (ih hrest hfailed.2).trans hmid

end Action

/-- An effect that fails without an error leaves the context as it found it: its actions were not
run, or all of them failed. -/
theorem Effect.context_of_process_failed {effect : Effect} {ledger : Ledger}
    {scene after : Scene σ} {report : EffectReport}
    (h : effect.process ledger scene = (report, after)) (hfailed : report.success = false)
    (herrors : report.errors = []) : after.context = scene.context := by
  cases ending_of_process h with
  | conditionsBroke _ | actionsBroke _ _ _ => cases herrors
  | conditionsFailed _ | refused _ _ => rfl
  | @completed source reports _ _ _ hactions =>
      have hnone : ∀ made ∈ reports, made.success = false := by
        simpa [completed] using hfailed
      have hcontext := Action.context_of_executeAll_failed hactions hnone
      exact hcontext

/-- **All or nothing.** An action that is interrupted, by a fault or by a panic of the source,
leaves the context exactly as it found it, and so does an action that fails, which reports no change
and spends nothing. Hence an effect that reports a failure and no error leaves the context as it
found it. -/
theorem failures_change_nothing (scene : Scene σ) :
    (∀ (action : Action) cause after, action.execute scene = .error cause after →
      after.context = scene.context) ∧
    (∀ (action : Action) report after, action.execute scene = .ok report after →
      report.success = false →
      after.context = scene.context ∧ report.change = .none ∧ report.consumedItem = false) ∧
    ∀ (effect : Effect) ledger report after, effect.process ledger scene = (report, after) →
      report.success = false → report.errors = [] → after.context = scene.context := by
  refine ⟨fun action cause after h => Action.context_of_execute_error h,
    fun action report after h hfailed => ?_,
    fun effect ledger report after h hfailed herrors =>
      Effect.context_of_process_failed h hfailed herrors⟩
  have hreport := Action.report_of_execute_failed h hfailed
  refine ⟨Action.context_of_execute_failed h hfailed, ?_, ?_⟩
  · rw [hreport]
    rfl
  · rw [hreport]
    rfl

/-- In the field, on a healthy creature and with a source that has nothing left to draw: a lesson
whose gate of chance panics, a gift that only works in battle, and a kit none of whose parts
works. -/
theorem failures_change_nothing_kit :
    let scene : Scene Recorded :=
      ⟨{ creature := { species := "eevee", hp := 20, maxHp := 20 } }, { words := [] }⟩
    let lesson : Action := { kind := .teachMove { move := "surf" }, chance := some (1 / 2) }
    let gift : Action := { kind := .consumeItem, conditions := [{ kind := .battleType [.wild] }] }
    let kit : Effect := {
      id := "kit", trigger := .onUse,
      actions := [{ kind := .healFixed 5 }, { kind := .cureStatus none },
        { kind := .boostStat .speed 1 }, { kind := .evolve { into := "jolteon" } },
        { kind := .modifyCatchRate 2 }, { kind := .healFixed 5, target := .opponent }] }
    (∃ cause after, lesson.execute scene = .error cause after ∧ after.context = scene.context) ∧
      (∃ report after, gift.execute scene = .ok report after ∧ report.success = false ∧
        after.context = scene.context ∧ report.change = .none ∧ report.consumedItem = false) ∧
      (kit.process {} scene).1.success = false ∧ (kit.process {} scene).1.errors = [] ∧
      (kit.process {} scene).1.message = "6 actions failed" ∧
      (kit.process {} scene).2.context = scene.context := by
  intro scene lesson gift kit
  obtain ⟨hinterrupted, hfailed, heffect⟩ := failures_change_nothing scene
  refine ⟨?_, ?_, ?_⟩
  · have hpanics : (match lesson.execute scene with
        | .ok .. => false
        | .error .. => true) = true := by decide +kernel
    cases h : lesson.execute scene with
    | ok report after => simp [h] at hpanics
    | error cause after => exact ⟨cause, after, rfl, hinterrupted lesson cause after h⟩
  · have hfails : (match gift.execute scene with
        | .ok report _ => !report.success
        | .error .. => false) = true := by decide +kernel
    cases h : gift.execute scene with
    | ok report after =>
        have hsuccess : report.success = false := by simpa [h] using hfails
        exact ⟨report, after, rfl, hsuccess, hfailed gift report after h hsuccess⟩
    | error cause after => simp [h] at hfails
  · have hfails : (kit.process {} scene).1.success = false := by decide +kernel
    have herrors : (kit.process {} scene).1.errors = [] := by decide +kernel
    exact ⟨hfails, herrors, by decide +kernel, heffect kit {} _ _ Prod.mk.eta.symm hfails herrors⟩

end BattleItems
