import BattleItems.Proofs.Outcomes

/-!
# BattleItems.Proofs.Gates

Conditions in front of an effect and conditions in front of its action.

Conditions are checked from left to right, so those of one list followed by those of another are one
list (`Condition.checkAll_append`). An effect with a single action may therefore hand its conditions
to the action, which then checks them in front of its own (`Action.behind`). What differs on the way
is who speaks for a condition that does not pass: either the effect turns itself away, or its action
fails and the effect has one failure to tell of. The two say the same, unless a restriction stands
between them or the action has words of its own for a failure.
-/

namespace BattleItems

variable {σ : Type} [DrawSource σ]

/-! ### Lists of conditions -/

/-- Of two lists of conditions behind each other the second is checked if the first one passes, with
the source that this left. -/
theorem Condition.checkAll_append (before after : List Condition) (context : Context) :
    (checkAll (before ++ after) context : Trial σ Verdict) = (do
      let verdict ← checkAll before context
      if verdict.isPassed then checkAll after context else pure verdict) := by
  induction before with
  | nil => rfl
  | cons condition rest ih =>
      simp only [List.cons_append, checkAll, bind_assoc]
      refine bind_congr fun verdict => ?_
      cases hpassed : verdict.isPassed with
      | true => simp only [if_true, ih]
      | false => simp [hpassed]

/-! ### One action -/

namespace Action

/-- The action behind more conditions, which are checked in front of its own. -/
def behind (action : Action) (conditions : List Condition) : Action :=
  { action with conditions := conditions ++ action.conditions }

theorem gate_behind (action : Action) (conditions : List Condition) (context : Context) :
    ((action.behind conditions).gate context : Trial σ Verdict) = (do
      let verdict ← Condition.checkAll conditions context
      if verdict.isPassed then action.gate context else pure verdict) := by
  simp only [gate, behind, Condition.checkAll_append, bind_assoc]
  refine bind_congr fun verdict => ?_
  cases hpassed : verdict.isPassed with
  | true => simp only [if_true]
  | false => simp [hpassed]

/-- An action behind more conditions checks those first. If they do not pass, it is stopped like by
a condition of its own. -/
theorem execute_behind (action : Action) (conditions : List Condition) (scene : Scene σ) :
    (action.behind conditions).execute scene =
      match Condition.checkAll conditions scene.context scene.source with
      | .error cause source => .error cause { scene with source }
      | .ok (.failed reason) source =>
        .ok (action.stopped reason scene.context) { scene with source }
      | .ok .passed source => action.execute { scene with source } := by
  simp only [execute, bind, EStateM.bind, Scene.trial, gate_behind]
  cases Condition.checkAll conditions scene.context scene.source with
  | error cause source => rfl
  | ok verdict source =>
      cases verdict with
      | failed reason => rfl
      | passed => rfl

end Action

/-! ### One effect -/

theorem Ledger.refusal?_of_isUnrestricted {effect : Effect}
    (h : effect.restrictions.isUnrestricted = true) (ledger : Ledger) (turn : UInt32) :
    ledger.refusal? effect turn = none := by
  simp only [Restrictions.isUnrestricted, Bool.and_eq_true, Bool.not_eq_true',
    Option.isNone_iff_eq_none] at h
  obtain ⟨⟨honce, hmax⟩, hcooldown⟩ := h
  simp [refusal?, honce, hmax, hcooldown]

/-- An unrestricted effect with one action is its conditions and that action. -/
theorem Effect.process_of_single {effect : Effect} {action : Action}
    (hunrestricted : effect.restrictions.isUnrestricted = true)
    (hactions : effect.actions = [action]) (ledger : Ledger) (scene : Scene σ) :
    effect.process ledger scene =
      match Condition.checkAll effect.conditions scene.context scene.source with
      | .error cause source => (.faulted effect cause.asFault, { scene with source })
      | .ok (.failed reason) source => (.rejected effect.id reason, { scene with source })
      | .ok .passed source =>
        match action.execute { scene with source } with
        | .error cause after => (.faulted effect cause.asFault, after)
        | .ok report after => (effect.completed [report], after) := by
  simp only [process, run, bind, EStateM.bind, Scene.trial]
  cases Condition.checkAll effect.conditions scene.context scene.source with
  | error cause source => rfl
  | ok verdict source =>
      cases verdict with
      | failed reason => rfl
      | passed =>
          simp only [EStateM.bind, Scene.read, Ledger.refusal?_of_isUnrestricted hunrestricted,
            hactions, Action.executeAll, bind]
          cases action.execute { scene with source } with
          | error cause after => rfl
          | ok report after => rfl

/-- **Conditions of an effect and of its only action are interchangeable.** An unrestricted effect
whose single action has no message of its own for failures comes to the same if the action checks
the conditions of the effect in front of its own: the same success, the same message, the same item
spent and the same errors, in the same context and with the same source behind it. -/
theorem process_eq_process_behind (effect : Effect) (action : Action) (ledger : Ledger)
    (scene : Scene σ) (hunrestricted : effect.restrictions.isUnrestricted = true)
    (hactions : effect.actions = [action]) (hmessage : action.failureMessage = none) :
    let inner : Effect :=
      { effect with conditions := [], actions := [action.behind effect.conditions] }
    let outerRun := effect.process ledger scene
    let innerRun := inner.process ledger scene
    outerRun.1.success = innerRun.1.success ∧ outerRun.1.message = innerRun.1.message ∧
      outerRun.1.consumedItem = innerRun.1.consumedItem ∧
      outerRun.1.errors = innerRun.1.errors ∧ outerRun.2 = innerRun.2 := by
  intro inner outerRun innerRun
  have hopen : inner.restrictions.isUnrestricted = true := hunrestricted
  have hone : inner.actions = [action.behind effect.conditions] := rfl
  have hinner : inner.process ledger scene =
      match (action.behind effect.conditions).execute scene with
      | .error cause after => (.faulted inner cause.asFault, after)
      | .ok report after => (inner.completed [report], after) :=
    Effect.process_of_single hopen hone ledger scene
  simp only [outerRun, innerRun]
  rw [hinner, Effect.process_of_single hunrestricted hactions, Action.execute_behind]
  cases Condition.checkAll effect.conditions scene.context scene.source with
  | error cause source => exact ⟨rfl, rfl, rfl, rfl, rfl⟩
  | ok verdict source =>
      cases verdict with
      | failed reason =>
          -- The effect turned away on one side, one stopped action to tell of on the other.
          have htold : (action.stopped reason scene.context).message = reason := by
            simp only [Action.stopped, hmessage, ActionReport.failed]
          exact ⟨rfl, htold.symm, rfl, rfl, rfl⟩
      | passed =>
          simp only
          cases action.execute { scene with source } with
          | error cause after => exact ⟨rfl, rfl, rfl, rfl, rfl⟩
          | ok report after => exact ⟨rfl, rfl, rfl, rfl, rfl⟩

/-- A charm that works every other time and not on a creature that holds it. The gate of chance is
in front of the effect, or in front of its action: one word of the source stops it, another lets it
through, and a source with no word left is a fault, each time on both sides. -/
theorem process_eq_process_behind_charm :
    let even : Condition := { kind := .noStatus, probability := some (1 / 2) }
    let free : Condition := { kind := .heldItem ["charm"], negate := true }
    let shine : Action := { kind := .healFixed 5, conditions := [free] }
    let charm : Effect := {
      id := "charm", trigger := .onUse, conditions := [even], actions := [shine] }
    let inner : Effect := {
      id := "charm", trigger := .onUse,
      actions := [{ kind := .healFixed 5, conditions := [even, free] }] }
    let scene (words : List UInt32) : Scene Recorded :=
      ⟨{ creature := { species := "eevee", hp := 10, maxHp := 20 } }, { words }⟩
    charm.restrictions.isUnrestricted = true ∧ charm.actions = [shine] ∧
      shine.failureMessage = none ∧
      (charm.process {} (scene [0xffffffff])).1.message = "Chance roll failed (50% chance)" ∧
      (inner.process {} (scene [0xffffffff])).1.message = "Chance roll failed (50% chance)" ∧
      (charm.process {} (scene [7])).1.message = "eevee recovered 5 HP" ∧
      (inner.process {} (scene [7])).1.message = "eevee recovered 5 HP" ∧
      (charm.process {} (scene [])).1.errors = ["Effect panicked: rng exhausted"] ∧
      (inner.process {} (scene [])).1.errors = ["Effect panicked: rng exhausted"] := by
  intro even free shine charm inner scene
  have hbehind : inner =
      { charm with conditions := [], actions := [shine.behind charm.conditions] } := rfl
  have hsame : ∀ words,
      (charm.process {} (scene words)).1.message = (inner.process {} (scene words)).1.message ∧
      (charm.process {} (scene words)).1.errors = (inner.process {} (scene words)).1.errors := by
    intro words
    obtain ⟨-, hmessage, -, herrors, -⟩ :=
      process_eq_process_behind charm shine {} (scene words) rfl rfl rfl
    rw [hbehind]
    exact ⟨hmessage, herrors⟩
  have hstopped :
      (charm.process {} (scene [0xffffffff])).1.message = "Chance roll failed (50% chance)" := by
    decide +kernel
  have hpassed : (charm.process {} (scene [7])).1.message = "eevee recovered 5 HP" := by
    decide +kernel
  have hpanicked :
      (charm.process {} (scene [])).1.errors = ["Effect panicked: rng exhausted"] := by
    decide +kernel
  exact ⟨rfl, rfl, rfl, hstopped, (hsame [0xffffffff]).1.symm.trans hstopped,
    hpassed, (hsame [7]).1.symm.trans hpassed, hpanicked, (hsame []).2.symm.trans hpanicked⟩

end BattleItems
