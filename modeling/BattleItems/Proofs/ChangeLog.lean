import BattleItems.Proofs.Applications
import BattleItems.Proofs.BatchRuns

/-!
# BattleItems.Proofs.ChangeLog

The reports of actions are a complete change log.

A report names what was changed and on whom. Making the changes of a run's reports to the context
that the run began with (`Context.replay`) gives the context that it left: nothing is changed that
is not reported, and nothing is reported that did not happen. A run that is interrupted drops the
reports of the effect that was interrupted, so only runs without errors have a log to replay.
-/

namespace BattleItems

/-! ### Replaying reports -/

/-- A creature with a reported change made to it. -/
def Creature.replay (creature : Creature) : Change → Creature
  | .healed amount => { creature with hp := creature.hp + amount }
  | .statusCured _ => { creature with status := none }
  | .statChanged stat _ after => creature.withStat stat after
  | .evolved _ after => { creature with species := after }
  | .moveLearned move isNew =>
    if isNew then { creature with moves := creature.moves ++ [move] } else creature
  | .none | .catchRate .. | .encounterSteps _ | .message _ => creature

namespace Context

/-- A context with a change made to it that was reported of a target. -/
def replayChange (context : Context) (target : Target) : Change → Context
  | .catchRate _ total =>
    { context with
      battle := context.battle.map fun battle => { battle with catchRateModifier := total } }
  | .encounterSteps steps =>
    { context with overworld := { context.overworld with repelSteps := steps } }
  | change =>
    match context.target? target with
    | some creature => context.update target (creature.replay change)
    | none => context

/-- A context with the change of a report made to it. -/
def replay (context : Context) (report : ActionReport) : Context :=
  context.replayChange report.target report.change

variable {context after : Context} {target : Target} {effort : Effort} {kind : ActionKind}

@[simp] theorem replayChange_none (context : Context) (target : Target) :
    context.replayChange target .none = context := by
  simp only [replayChange]
  split
  · rename_i creature hpresent
    exact update_of_target? hpresent
  · rfl

/-- A text that is shown changes nothing. -/
@[simp] theorem replayChange_message (context : Context) (target : Target) (text : String) :
    context.replayChange target (.message text) = context :=
  context.replayChange_none target

theorem replayChange_of_creature {creature later : Creature}
    (hpresent : context.target? target = some creature)
    (houtcome : kind.CreatureOutcome creature effort later) :
    context.replayChange target effort.change = context.update target later := by
  cases houtcome <;>
    simp [replayChange, hpresent, Effort.failed, Effort.succeeded, Creature.replay]

/-- The change of an effort is what became of the context. -/
theorem replayChange_of_outcome (houtcome : kind.Outcome target context effort after) :
    context.replayChange target effort.change = after := by
  cases houtcome with
  | failed => exact context.replayChange_none target
  | onCreature hpresent houtcome => exact replayChange_of_creature hpresent houtcome
  | catchRate hbattle => simp [Effort.succeeded, replayChange, hbattle]
  | repelled => rfl
  | spent => exact context.replayChange_none target
  | said => exact context.replayChange_message target _

end Context

/-! ### Runs -/

section Runs

variable {σ : Type} [DrawSource σ] {scene after : Scene σ}

theorem Action.execute_replay {action : Action} {report : ActionReport}
    (h : action.execute scene = .ok report after) :
    scene.context.replay report = after.context := by
  have hend := action.execute_ending scene
  rw [h] at hend
  cases hend with
  | stopped _ => exact scene.context.replayChange_none action.target
  | applied _ happly => exact Context.replayChange_of_outcome (ActionKind.apply_outcome happly)

theorem Action.executeAll_replay {actions : List Action} {reports : List ActionReport}
    (h : executeAll actions scene = .ok reports after) :
    reports.foldl Context.replay scene.context = after.context := by
  induction actions generalizing scene reports with
  | nil =>
      cases h
      rfl
  | cons action rest ih =>
      obtain ⟨report, mid, others, hfirst, hrest, rfl⟩ := executeAll_cons_ok_iff.mp h
      rw [List.foldl_cons, execute_replay hfirst, ih hrest]

/-- An effect that reports no error reports everything that it changed. -/
theorem Effect.process_replay {effect : Effect} {ledger : Ledger} {report : EffectReport}
    (h : effect.process ledger scene = (report, after)) (herrors : report.errors = []) :
    report.actions.foldl Context.replay scene.context = after.context := by
  cases ending_of_process h with
  | conditionsBroke _ => cases herrors
  | conditionsFailed _ => rfl
  | refused _ _ => rfl
  | actionsBroke _ _ _ => cases herrors
  | completed _ _ hactions =>
      have h := Action.executeAll_replay hactions
      exact h

theorem Batch.runAll_replay {settings : Settings} {ledger : Ledger} {order : List Effect}
    {reports : List EffectReport} (h : runAll settings ledger order scene = (reports, after))
    (herrors : ∀ report ∈ reports, report.errors = []) :
    (reports.flatMap (·.actions)).foldl Context.replay scene.context = after.context := by
  induction order generalizing scene reports with
  | nil =>
      cases h
      rfl
  | cons effect rest ih =>
      rcases hrun : effect.process ledger scene with ⟨report, mid⟩
      by_cases hcritical : IsCriticalFailure settings effect report
      · rw [runAll_cons_of_critical hrun hcritical] at h
        obtain ⟨rfl, rfl⟩ := Prod.mk.inj h
        simpa using Effect.process_replay hrun (herrors report List.mem_cons_self)
      · rw [runAll_cons_of_not_critical hrun hcritical] at h
        obtain ⟨rfl, hrest⟩ := Prod.mk.inj h
        rw [List.flatMap_cons, List.foldl_append,
          Effect.process_replay hrun (herrors report List.mem_cons_self)]
        exact ih (Prod.ext rfl hrest) fun r hr => herrors r (List.mem_cons_of_mem _ hr)

/-- **The reports are a complete change log.** A list of actions that runs to its end leaves the
context that replaying its reports gives, and so does a batch in which no effect reports an
error. -/
theorem reports_replay_to_context (scene : Scene σ) :
    (∀ actions reports after, Action.executeAll actions scene = .ok reports after →
      reports.foldl Context.replay scene.context = after.context) ∧
    ∀ settings effects trigger ledger reports after,
      Batch.process settings effects trigger ledger scene = (reports, after) →
      (∀ report ∈ reports, report.errors = []) →
      (reports.flatMap (·.actions)).foldl Context.replay scene.context = after.context :=
  ⟨fun _ _ _ => Action.executeAll_replay, fun _ _ _ _ _ _ => Batch.runAll_replay⟩

/-- A feast in battle that reaches both creatures, the battle and the field; one bite of it comes
too late to do anything. -/
theorem reports_replay_to_context_feast :
    let feast : Effect := {
      id := "feast", trigger := .onUse,
      actions := [{ kind := .healFixed 50 }, { kind := .healFixed 1 }, { kind := .cureStatus none },
        { kind := .boostStat .speed 2 }, { kind := .teachMove { move := "surf" } },
        { kind := .healPercentage 25, target := .opponent }, { kind := .modifyCatchRate 2 },
        { kind := .preventWildEncounters 100 }, { kind := .showMessage "Delicious!" }] }
    let hungry : Context := {
      creature := { hp := 10, maxHp := 40, status := some .burn, stats := { speed := some 30 } },
      opponent := some { hp := 4, maxHp := 20 }, battle := some {} }
    let scene : Scene Recorded := ⟨hungry, { words := [] }⟩
    let reports := (Batch.process {} [feast] .onUse {} scene).1
    (∀ report ∈ reports, report.errors = []) ∧
      reports.map (·.actions.map (·.change)) =
        [[.healed 30, .none, .statusCured .burn, .statChanged .speed 30 60,
          .moveLearned "surf" true, .healed 5, .catchRate 2 2, .encounterSteps 100,
          .message "Delicious!"]] ∧
      (reports.flatMap (·.actions)).foldl Context.replay hungry = {
        creature := { hp := 40, maxHp := 40, stats := { speed := some 60 }, moves := ["surf"] },
        opponent := some { hp := 9, maxHp := 20 },
        battle := some { catchRateModifier := 2 }, overworld := { repelSteps := 100 } } := by
  intro feast hungry scene reports
  have herrors : ∀ report ∈ reports, report.errors = [] := by decide +kernel
  refine ⟨herrors, by decide +kernel, ?_⟩
  rw [(reports_replay_to_context scene).2 {} [feast] .onUse {} reports _ rfl herrors]
  decide +kernel

end Runs

end BattleItems
