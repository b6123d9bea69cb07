import BattleItems.Proofs.Calls

/-!
# BattleItems.Proofs.EffectRuns

The effects and the actions that a run goes through, each with the scene that it was run in.

A report says how an effect ended, but not where it began, and of an effect that was interrupted it
does not say what the actions before the interruption did. The traces here keep both. `Batch.runs`
and `Call.runsAll` list the effects that are run, and their reports are those of the batch
(`Batch.map_report_runs`); `Call.executions` lists the actions that were run to their end, and each
of them begins in the context that the one before it left (`Execution.Path`).
-/

namespace BattleItems

variable {σ : Type} [DrawSource σ]

/-! ### Effects -/

/-- An effect that is run in a scene, with the ledger that it is checked against. -/
structure EffectRun (σ : Type) where
  effect : Effect
  ledger : Ledger
  before : Scene σ

namespace EffectRun

def report (run : EffectRun σ) : EffectReport := (run.effect.process run.ledger run.before).1

def after (run : EffectRun σ) : Scene σ := (run.effect.process run.ledger run.before).2

theorem process_eq (run : EffectRun σ) :
    run.effect.process run.ledger run.before = (run.report, run.after) := rfl

theorem report_effect (run : EffectRun σ) : run.report.effect = run.effect.id :=
  run.effect.process_effect run.ledger run.before

end EffectRun

namespace Batch

variable {settings : Settings} {ledger : Ledger} {effect : Effect} {rest : List Effect}
  {scene : Scene σ}

/-- The effects that a batch runs, up to the first critical failure. -/
def runs (settings : Settings) (ledger : Ledger) : List Effect → Scene σ → List (EffectRun σ)
  | [], _ => []
  | effect :: rest, scene =>
    let run : EffectRun σ := ⟨effect, ledger, scene⟩
    if IsCriticalFailure settings effect run.report then [run]
    else run :: runs settings ledger rest run.after

theorem runs_cons_of_critical
    (hcritical : IsCriticalFailure settings effect (effect.process ledger scene).1) :
    runs settings ledger (effect :: rest) scene = [⟨effect, ledger, scene⟩] :=
  if_pos hcritical

theorem runs_cons_of_not_critical
    (hcritical : ¬IsCriticalFailure settings effect (effect.process ledger scene).1) :
    runs settings ledger (effect :: rest) scene =
      ⟨effect, ledger, scene⟩ :: runs settings ledger rest (effect.process ledger scene).2 :=
  if_neg hcritical

/-- The reports of a batch are those of the effects that it runs. -/
theorem map_report_runs (settings : Settings) (ledger : Ledger) (order : List Effect)
    (scene : Scene σ) :
    (runs settings ledger order scene).map (·.report) =
      (runAll settings ledger order scene).1 := by
  induction order generalizing scene with
  | nil => rfl
  | cons effect rest ih =>
      by_cases hcritical : IsCriticalFailure settings effect (effect.process ledger scene).1
      · rw [runs_cons_of_critical hcritical, runAll_cons_of_critical rfl hcritical]
        rfl
      · rw [runs_cons_of_not_critical hcritical, runAll_cons_of_not_critical rfl hcritical,
          List.map_cons, ih]
        rfl

/-- What every effect of a batch keeps still holds where each of them is run. -/
theorem runs_keep {order : List Effect} {I : Scene σ → Prop}
    (hkeep : ∀ effect ∈ order, ∀ scene, I scene → I (effect.process ledger scene).2)
    (hstart : I scene) :
    ∀ run ∈ runs settings ledger order scene,
      run.effect ∈ order ∧ I run.before := by
  induction order generalizing scene with
  | nil => simp [runs]
  | cons effect rest ih =>
      intro run hrun
      by_cases hcritical : IsCriticalFailure settings effect (effect.process ledger scene).1
      · rw [runs_cons_of_critical hcritical] at hrun
        obtain rfl := List.mem_singleton.mp hrun
        exact ⟨List.mem_cons_self, hstart⟩
      · rw [runs_cons_of_not_critical hcritical] at hrun
        rcases List.mem_cons.mp hrun with rfl | hrest
        · exact ⟨List.mem_cons_self, hstart⟩
        · obtain ⟨hmem, hbefore⟩ := ih (fun e he => hkeep e (List.mem_cons_of_mem _ he))
            (hkeep effect List.mem_cons_self scene hstart) run hrest
          exact ⟨List.mem_cons_of_mem _ hmem, hbefore⟩

end Batch

namespace Call

/-- The effects that a call runs on a context. -/
def runs (call : Call σ) (context : Context) : List (EffectRun σ) :=
  match call with
  | batch settings effects trigger ledger source =>
    Batch.runs settings ledger (Batch.selected effects trigger) ⟨context, source⟩
  | single effect ledger source => [⟨effect, ledger, ⟨context, source⟩⟩]

/-- The effects that calls run, in order. -/
def runsAll : List (Call σ) → Context → List (EffectRun σ)
  | [], _ => []
  | call :: rest, context => call.runs context ++ runsAll rest (call.play context).2.context

end Call

/-! ### Actions -/

/-- An action that was run to its end: a gate may have stopped it, but nothing interrupted it. -/
structure Execution (σ : Type) [DrawSource σ] where
  action : Action
  before : Scene σ
  report : ActionReport
  after : Scene σ
  execute_eq : action.execute before = .ok report after

/-- The executions of a list of actions, up to an interruption if there is one. An action that is
interrupted is not listed, as it changes nothing. -/
def Action.executions : List Action → Scene σ → List (Execution σ)
  | [], _ => []
  | action :: rest, scene =>
    match h : action.execute scene with
    | .ok report after => ⟨action, scene, report, after, h⟩ :: executions rest after
    | .error _ _ => []

/-- The executions of an effect; there are none if its conditions or its restrictions stop it. -/
def EffectRun.executions (run : EffectRun σ) : List (Execution σ) :=
  match Condition.checkAll run.effect.conditions run.before.context run.before.source with
  | .ok .passed source =>
    match run.ledger.refusal? run.effect run.before.context.currentTurn with
    | none => Action.executions run.effect.actions { run.before with source }
    | some _ => []
  | .ok (.failed _) _ => []
  | .error _ _ => []

/-- The executions of calls, in order. -/
def Call.executions (calls : List (Call σ)) (context : Context) : List (Execution σ) :=
  (runsAll calls context).flatMap EffectRun.executions

namespace Execution

/-- Executions that lead from one context to another: each begins in the context that the one
before it left. -/
inductive Path : Context → List (Execution σ) → Context → Prop
  | nil {context : Context} : Path context [] context
  | cons (execution : Execution σ) {rest : List (Execution σ)} {last : Context} :
      Path execution.after.context rest last →
        Path execution.before.context (execution :: rest) last

theorem Path.append {first mid last : Context} {before after : List (Execution σ)}
    (hbefore : Path first before mid) (hafter : Path mid after last) :
    Path first (before ++ after) last := by
  induction hbefore with
  | nil => exact hafter
  | cons execution _ ih => exact .cons execution (ih hafter)

end Execution

open Execution (Path)

namespace Action

variable {action : Action} {actions rest : List Action} {scene after last : Scene σ}
  {report : ActionReport} {reports : List ActionReport} {cause : Interruption}

theorem executions_cons_of_ok (h : action.execute scene = .ok report after) :
    executions (action :: rest) scene =
      ⟨action, scene, report, after, h⟩ :: executions rest after := by
  rw [executions]
  split
  · rename_i report' after' h'
    obtain ⟨rfl, rfl⟩ := EStateM.Result.ok.inj (h'.symm.trans h)
    rfl
  · rename_i h'
    cases h'.symm.trans h

theorem executions_cons_of_error (h : action.execute scene = .error cause after) :
    executions (action :: rest) scene = [] := by
  rw [executions]
  split
  · rename_i h'
    cases h'.symm.trans h
  · rfl

theorem executions_path_of_ok (h : executeAll actions scene = .ok reports last) :
    Path scene.context (executions actions scene) last.context := by
  induction actions generalizing scene reports with
  | nil =>
      cases h
      exact .nil
  | cons action rest ih =>
      obtain ⟨report, mid, others, hfirst, hrest, -⟩ := executeAll_cons_ok_iff.mp h
      rw [executions_cons_of_ok hfirst]
      exact .cons ⟨action, scene, report, mid, hfirst⟩ (ih hrest)

theorem executions_path_of_error (h : executeAll actions scene = .error cause last) :
    Path scene.context (executions actions scene) last.context := by
  induction actions generalizing scene with
  | nil => cases h
  | cons action rest ih =>
      rcases executeAll_cons_error_iff.mp h with hfirst | ⟨report, mid, hfirst, hrest⟩
      · rw [executions_cons_of_error hfirst, context_of_execute_error hfirst]
        exact .nil
      · rw [executions_cons_of_ok hfirst]
        exact .cons ⟨action, scene, report, mid, hfirst⟩ (ih hrest)

end Action

/-- However an effect ends, its executions lead from the context that it was run in to the one that
it left. -/
theorem EffectRun.executions_path (run : EffectRun σ) :
    Path run.before.context run.executions run.after.context := by
  have hend := Effect.ending_of_process run.process_eq
  generalize run.report = report at hend
  generalize run.after = after at hend ⊢
  cases hend with
  | conditionsBroke hcheck | conditionsFailed hcheck =>
      simp only [executions, hcheck]
      exact .nil
  | refused hcheck hrefusal =>
      simp only [executions, hcheck, hrefusal]
      exact .nil
  | actionsBroke hcheck hrefusal hactions =>
      simp only [executions, hcheck, hrefusal]
      exact Action.executions_path_of_error hactions
  | completed hcheck hrefusal hactions =>
      simp only [executions, hcheck, hrefusal]
      exact Action.executions_path_of_ok hactions

theorem Batch.executions_path (settings : Settings) (ledger : Ledger) (order : List Effect)
    (scene : Scene σ) :
    Path scene.context ((runs settings ledger order scene).flatMap EffectRun.executions)
      (runAll settings ledger order scene).2.context := by
  induction order generalizing scene with
  | nil => exact .nil
  | cons effect rest ih =>
      have hfirst := EffectRun.executions_path ⟨effect, ledger, scene⟩
      by_cases hcritical : IsCriticalFailure settings effect (effect.process ledger scene).1
      · rw [runs_cons_of_critical hcritical, runAll_cons_of_critical rfl hcritical,
          List.flatMap_singleton]
        exact hfirst
      · rw [runs_cons_of_not_critical hcritical, runAll_cons_of_not_critical rfl hcritical,
          List.flatMap_cons]
        exact hfirst.append (ih _)

namespace Call

theorem executions_path_play (call : Call σ) (context : Context) :
    Path context ((call.runs context).flatMap EffectRun.executions)
      (call.play context).2.context := by
  cases call with
  | batch settings effects trigger ledger source =>
      exact Batch.executions_path settings ledger (Batch.selected effects trigger)
        ⟨context, source⟩
  | single effect ledger source =>
      rw [runs, List.flatMap_singleton]
      exact EffectRun.executions_path ⟨effect, ledger, ⟨context, source⟩⟩

/-- The executions of a run lead from its first context to its last. -/
theorem executions_path (calls : List (Call σ)) (context : Context) :
    Path context (executions calls context) (playAll calls context).2 := by
  induction calls generalizing context with
  | nil => exact .nil
  | cons call rest ih =>
      rw [executions, runsAll, List.flatMap_append]
      exact (call.executions_path_play context).append (ih _)

end Call

end BattleItems
