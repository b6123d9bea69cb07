import Mathlib.Data.List.Permutation
import BattleItems.Proofs.Footprint

/-!
# BattleItems.Proofs.Recording

When the uses of a batch are recorded does not matter.

The engine only reads the ledger while a batch runs, and the caller records the reports afterwards.
`Batch.runAllRecording` records each report before the next effect is run instead. The two agree
where ids are distinct, for three reasons: an effect is checked against its own record alone
(`Effect.process_congr`), recording a report changes the record of that effect alone
(`Ledger.record_recordReports_of_ne`), and no effect moves the turn.
-/

namespace BattleItems

/-! ### What a ledger is read and written for -/

namespace Ledger

variable {ledger other : Ledger} {effect : Effect}

theorem refusal?_congr (h : ledger.record effect.id = other.record effect.id) (turn : UInt32) :
    ledger.refusal? effect turn = other.refusal? effect turn := by
  simp only [refusal?, h]

theorem recordReports_cons (ledger : Ledger) (report : EffectReport) (reports : List EffectReport)
    (turn : UInt32) : ledger.recordReports (report :: reports) turn =
      (ledger.recordReports [report] turn).recordReports reports turn := by
  cases hsuccess : report.success <;> simp [recordReports, hsuccess]

theorem record_recordReports_of_ne {id : String} {reports : List EffectReport}
    (h : ∀ report ∈ reports, report.effect ≠ id) (ledger : Ledger) (turn : UInt32) :
    (ledger.recordReports reports turn).record id = ledger.record id := by
  induction reports generalizing ledger with
  | nil => rfl
  | cons report rest ih =>
      rw [recordReports_cons, ih fun r hr => h r (List.mem_cons_of_mem _ hr)]
      have hne : id ≠ report.effect := (h report List.mem_cons_self).symm
      cases hsuccess : report.success with
      | false => simp [recordReports, hsuccess]
      | true => simp [recordReports, hsuccess, record_recordUse, hne]

end Ledger

section Runs

variable {σ : Type} [DrawSource σ]

/-- Of a ledger an effect reads its own record and nothing else. -/
theorem Effect.process_congr {effect : Effect} {ledger other : Ledger}
    (h : ledger.record effect.id = other.record effect.id) (scene : Scene σ) :
    effect.process ledger scene = effect.process other scene := by
  have hrefusal : ledger.refusal? effect = other.refusal? effect :=
    funext fun turn => Ledger.refusal?_congr h turn
  simp only [process, run, hrefusal]

/-- Running an effect leaves the turn as it is. -/
theorem Effect.currentTurn_process (effect : Effect) (ledger : Ledger) (scene : Scene σ) :
    (effect.process ledger scene).2.context.currentTurn = scene.context.currentTurn :=
  (treated_footprint.process (fun _ _ => trivial) rfl).currentTurn_eq

namespace Batch

variable {settings : Settings} {ledger : Ledger} {effect : Effect} {rest : List Effect}
  {report : EffectReport} {scene after : Scene σ}

/-- Runs effects in order and stops behind the first critical failure, like `runAll`, but records
each report before the next effect is run. Gives the ledger that is left as well. -/
def runAllRecording (settings : Settings) :
    Ledger → List Effect → Scene σ → List EffectReport × Scene σ × Ledger
  | ledger, [], scene => ([], scene, ledger)
  | ledger, effect :: rest, scene =>
    let (report, after) := effect.process ledger scene
    let recorded := ledger.recordReports [report] after.context.currentTurn
    if IsCriticalFailure settings effect report then ([report], after, recorded)
    else
      let (reports, last, final) := runAllRecording settings recorded rest after
      (report :: reports, last, final)

theorem runAllRecording_cons_of_critical (hrun : effect.process ledger scene = (report, after))
    (hcritical : IsCriticalFailure settings effect report) :
    runAllRecording settings ledger (effect :: rest) scene =
      ([report], after, ledger.recordReports [report] after.context.currentTurn) := by
  simp only [runAllRecording, hrun, if_pos hcritical]

theorem runAllRecording_cons_of_not_critical
    (hrun : effect.process ledger scene = (report, after))
    (hcritical : ¬IsCriticalFailure settings effect report) :
    runAllRecording settings ledger (effect :: rest) scene =
      let (reports, last, final) := runAllRecording settings
        (ledger.recordReports [report] after.context.currentTurn) rest after
      (report :: reports, last, final) := by
  simp only [runAllRecording, hrun, if_neg hcritical]

/-- A ledger that is recorded into on the way and the one that the batch was begun with agree on
every effect that is still to run. -/
theorem runAllRecording_eq {current : Ledger} {order : List Effect}
    (hdistinct : (order.map (·.id)).Nodup)
    (hagree : ∀ effect ∈ order, current.record effect.id = ledger.record effect.id) :
    runAllRecording settings current order scene =
      ((runAll settings ledger order scene).1, (runAll settings ledger order scene).2,
        current.recordReports (runAll settings ledger order scene).1
          scene.context.currentTurn) := by
  induction order generalizing current scene with
  | nil => rfl
  | cons effect rest ih =>
      rw [List.map_cons, List.nodup_cons] at hdistinct
      rcases hrun : effect.process ledger scene with ⟨report, after⟩
      have hcurrent : effect.process current scene = (report, after) := by
        rw [Effect.process_congr (hagree effect List.mem_cons_self), hrun]
      have hturn : after.context.currentTurn = scene.context.currentTurn := by
        have h := effect.currentTurn_process ledger scene
        rwa [hrun] at h
      by_cases hcritical : IsCriticalFailure settings effect report
      · rw [runAllRecording_cons_of_critical hcurrent hcritical,
          runAll_cons_of_critical hrun hcritical, hturn]
      · -- The report is that of an effect with another id than those that are still to run.
        have hrest : ∀ later ∈ rest,
            (current.recordReports [report] after.context.currentTurn).record later.id =
              ledger.record later.id := by
          intro later hlater
          rw [← hagree later (List.mem_cons_of_mem _ hlater)]
          refine Ledger.record_recordReports_of_ne (fun made hmade heq => ?_) current _
          obtain rfl := List.mem_singleton.mp hmade
          have hid := effect.process_effect ledger scene
          rw [hrun] at hid
          exact hdistinct.1 (List.mem_map.mpr ⟨later, hlater, heq.symm.trans hid⟩)
        rw [runAllRecording_cons_of_not_critical hcurrent hcritical,
          runAll_cons_of_not_critical hrun hcritical, ih hdistinct.2 hrest, hturn,
          ← Ledger.recordReports_cons]

/-- **Recording behind a batch is recording as it goes.** Where the ids of the effects are distinct,
a batch that runs against a fixed ledger and is recorded afterwards gives the reports, the context,
the source and the ledger of the batch that records every report before its next effect is run. -/
theorem process_recorded_eq_runAllRecording (settings : Settings) (effects : List Effect)
    (trigger : Trigger) (ledger : Ledger) (scene : Scene σ)
    (hdistinct : (effects.map (·.id)).Nodup) :
    let played := process settings effects trigger ledger scene
    (played.1, played.2, ledger.recordReports played.1 played.2.context.currentTurn) =
      runAllRecording settings ledger (selected effects trigger) scene := by
  intro played
  have hturn : played.2.context.currentTurn = scene.context.currentTurn :=
    (treated_footprint.batch fun _ _ _ _ => trivial).1.currentTurn_eq
  rw [runAllRecording_eq (nodup_selected hdistinct trigger) fun _ _ => rfl, hturn]
  rfl

/-- Two meals of one turn; the one that is declared later has the higher priority and is recorded
first. -/
theorem process_recorded_eq_runAllRecording_meals :
    let sip : Effect := {
      id := "sip", trigger := .onUse, actions := [{ kind := .healFixed 5 }],
      restrictions := { oncePerBattle := true } }
    let feast : Effect := {
      id := "feast", trigger := .onUse, priority := 150, actions := [{ kind := .healFixed 9 }],
      restrictions := { cooldown := some 4 } }
    let hungry : Context := {
      creature := { hp := 10, maxHp := 40 }, battle := some { turn := 3 } }
    let scene : Scene Recorded := ⟨hungry, { words := [] }⟩
    let played := process {} [sip, feast] .onUse {} scene
    let recorded := ({} : Ledger).recordReports played.1 played.2.context.currentTurn
    ([sip, feast].map (·.id)).Nodup ∧ played.1.map (·.success) = [true, true] ∧
      recorded.entries = [("feast", ⟨1, some 3⟩), ("sip", ⟨1, some 3⟩)] ∧
      runAllRecording {} {} (selected [sip, feast] .onUse) scene =
        (played.1, played.2, recorded) := by
  intro sip feast hungry scene played recorded
  have hdistinct : ([sip, feast].map (·.id)).Nodup := by decide
  have hplayed : played = runAll {} {} [feast, sip] scene := by
    have hselected : selected [sip, feast] .onUse = [feast, sip] := by cbv
    exact congrArg (runAll {} {} · scene) hselected
  refine ⟨hdistinct, ?_, ?_,
    (process_recorded_eq_runAllRecording {} _ .onUse {} scene hdistinct).symm⟩
  · rw [hplayed]
    decide +kernel
  · simp only [recorded, hplayed]
    decide +kernel

end Batch

end Runs

end BattleItems
