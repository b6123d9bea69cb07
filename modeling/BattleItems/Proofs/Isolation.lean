import BattleItems.Proofs.BatchRuns

/-!
# BattleItems.Proofs.Isolation

Faults and panics stay within their effect.

Whatever interrupts an effect, a fault of its data, a broken context or a source that panics, is
turned into a report of failure at the boundary of the effect. What stays of the effect is what
its whole actions did: the action that was interrupted leaves no trace in the context
(`Effect.Breaks`), and the batch goes on from there.
-/

namespace BattleItems

variable {σ : Type} [DrawSource σ]

namespace Effect

/-- An effect is interrupted: where, by what, and the scene that is left. -/
inductive Breaks (effect : Effect) (ledger : Ledger) (scene : Scene σ) :
    Interruption → Scene σ → Prop
  /-- In the conditions of the effect: the context is the one it was run in. -/
  | inConditions {cause : Interruption} {source : σ}
      (hcheck : Condition.checkAll effect.conditions scene.context scene.source =
        .error cause source) :
      Breaks effect ledger scene cause ⟨scene.context, source⟩
  /-- In one of its actions: the context is the one that the actions before it left. -/
  | inAction {before rest : List Action} {broken : Action} {cause : Interruption}
      {checked source : σ} {reports : List ActionReport} {mid : Scene σ}
      (hsplit : effect.actions = before ++ broken :: rest)
      (hcheck : Condition.checkAll effect.conditions scene.context scene.source =
        .ok .passed checked)
      (hrefusal : ledger.refusal? effect scene.context.currentTurn = none)
      (hbefore : Action.executeAll before ⟨scene.context, checked⟩ = .ok reports mid)
      (hbroken : broken.execute mid = .error cause ⟨mid.context, source⟩) :
      Breaks effect ledger scene cause ⟨mid.context, source⟩

variable {effect : Effect} {ledger : Ledger} {scene after : Scene σ} {report : EffectReport}
  {cause : Interruption}

/-- What interrupts an effect is caught. -/
theorem process_of_breaks (h : effect.Breaks ledger scene cause after) :
    effect.process ledger scene = (.faulted effect cause.asFault, after) := by
  cases h with
  | inConditions hcheck =>
      simp only [process, run, bind, EStateM.bind, Scene.trial, hcheck]
  | inAction hsplit hcheck hrefusal hbefore hbroken =>
      have hactions := Action.executeAll_error_iff.mpr
        ⟨_, _, _, _, _, hsplit, hbefore, hbroken⟩
      simp only [process, run, bind, EStateM.bind, Scene.trial, Scene.read, hcheck, hrefusal,
        hactions]

/-- Only an interruption is reported as an error. -/
theorem breaks_of_errors_ne_nil (hrun : effect.process ledger scene = (report, after))
    (herrors : report.errors ≠ []) :
    ∃ cause, report = .faulted effect cause.asFault ∧ effect.Breaks ledger scene cause after := by
  cases ending_of_process hrun with
  | conditionsBroke hcheck => exact ⟨_, rfl, .inConditions hcheck⟩
  | conditionsFailed _ => exact absurd rfl herrors
  | refused _ _ => exact absurd rfl herrors
  | actionsBroke hcheck hrefusal hactions =>
      obtain ⟨before, broken, rest, reports, mid, hsplit, hbefore, hbroken⟩ :=
        Action.executeAll_error_iff.mp hactions
      -- The broken action changed the source at most, so the scene is that of the actions before.
      obtain ⟨context, source⟩ := after
      obtain rfl : context = mid.context := Action.context_of_execute_error hbroken
      exact ⟨_, rfl, .inAction hsplit hcheck hrefusal hbefore hbroken⟩
  | completed _ _ _ => exact absurd rfl herrors

theorem errors_length_le_one (hrun : effect.process ledger scene = (report, after)) :
    report.errors.length ≤ 1 := by
  cases ending_of_process hrun <;> simp [EffectReport.faulted, EffectReport.rejected, completed]

end Effect

/-- Behind an effect that reports a failure the batch stops if its priority is critical, and goes
on from the scene that the effect left otherwise. -/
theorem Batch.process_of_failed {settings : Settings} {effects before rest : List Effect}
    {effect : Effect} {trigger : Trigger} {ledger : Ledger} {start scene after : Scene σ}
    {reports : List EffectReport} {report : EffectReport}
    (horder : InOrder effects trigger (before ++ effect :: rest))
    (hbefore : runAll settings ledger before start = (reports, scene))
    (hpassed : List.Forall₂ (fun effect report => ¬IsCriticalFailure settings effect report)
      before reports)
    (hrun : effect.process ledger scene = (report, after)) (hfailed : report.success = false) :
    process settings effects trigger ledger start =
      if settings.criticalPriority.toInt < effect.priority.toInt then (reports ++ [report], after)
      else (reports ++ report :: (runAll settings ledger rest after).1,
        (runAll settings ledger rest after).2) := by
  rw [process, ← inOrder_iff.mp horder, runAll_append hbefore hpassed]
  split
  · rename_i hpriority
    rw [runAll_cons_of_critical hrun ⟨hfailed, hpriority⟩]
  · rename_i hpriority
    rw [runAll_cons_of_not_critical hrun fun hcritical => hpriority hcritical.2]

/-- **Failure isolation.** Running an effect always gives a report, with one error at most. Every
interruption is caught and becomes a report of failure that spends nothing, and the context that is
left is the first one with the whole actions before the interruption executed. In a batch the
effects behind it run from that scene, unless its priority is critical. -/
theorem process_isolates_faults (effect : Effect) (ledger : Ledger) (scene : Scene σ) :
    let report := (effect.process ledger scene).1
    let after := (effect.process ledger scene).2
    report.errors.length ≤ 1 ∧
      (∀ cause last, effect.Breaks ledger scene cause last → after = last ∧
        report.errors = [cause.asFault.message]) ∧
      (report.errors ≠ [] → report.success = false ∧ report.consumedItem = false ∧
        report.actions = [] ∧ report.message = effect.displayName ++ " failed" ∧
        ∃ cause, effect.Breaks ledger scene cause after) ∧
      (report.errors ≠ [] → ∀ (settings : Settings) (effects before rest : List Effect)
        (trigger : Trigger) (start : Scene σ) (reports : List EffectReport),
        Batch.InOrder effects trigger (before ++ effect :: rest) →
        Batch.runAll settings ledger before start = (reports, scene) →
        List.Forall₂ (fun effect report => ¬Batch.IsCriticalFailure settings effect report)
          before reports →
        Batch.process settings effects trigger ledger start =
          if settings.criticalPriority.toInt < effect.priority.toInt then
            (reports ++ [report], after)
          else (reports ++ report :: (Batch.runAll settings ledger rest after).1,
            (Batch.runAll settings ledger rest after).2)) := by
  rcases hrun : effect.process ledger scene with ⟨report, after⟩
  refine ⟨Effect.errors_length_le_one hrun, fun cause last hbreaks => ?_, fun herrors => ?_,
    fun herrors settings effects before rest trigger start reports horder hbefore hpassed => ?_⟩
  · rw [Effect.process_of_breaks hbreaks] at hrun
    obtain ⟨rfl, rfl⟩ := Prod.mk.inj hrun
    exact ⟨rfl, rfl⟩
  · obtain ⟨cause, rfl, hbreaks⟩ := Effect.breaks_of_errors_ne_nil hrun herrors
    exact ⟨rfl, rfl, rfl, rfl, cause, hbreaks⟩
  · obtain ⟨cause, rfl, -⟩ := Effect.breaks_of_errors_ne_nil hrun herrors
    exact Batch.process_of_failed horder hbefore hpassed hrun rfl

/-- A heal before a heal of no number stays, and one behind it is not made. -/
theorem process_isolates_faults_tonic :
    let tonic : Effect := {
      id := "tonic", trigger := .onUse,
      actions := [{ kind := .healFixed 5 }, { kind := .healPercentage .nan },
        { kind := .healFixed 5 }] }
    let scene : Scene Recorded := ⟨{ creature := { hp := 10, maxHp := 50 } }, { words := [] }⟩
    let report := (tonic.process {} scene).1
    report.errors ≠ [] ∧ report.success = false ∧ report.consumedItem = false ∧
      report.actions = [] ∧ report.message = "tonic failed" ∧
      (tonic.process {} scene).2.context = { creature := { hp := 15, maxHp := 50 } } := by
  intro tonic scene report
  have herrors : report.errors ≠ [] := by decide +kernel
  obtain ⟨-, -, hfailed, -⟩ := process_isolates_faults tonic {} scene
  obtain ⟨hsuccess, hconsumed, hactions, hmessage, -⟩ := hfailed herrors
  refine ⟨herrors, hsuccess, hconsumed, hactions, hmessage, ?_⟩
  decide +kernel

end BattleItems
