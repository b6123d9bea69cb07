import Mathlib.Data.List.Forall2
import BattleItems.Proofs.Failures

/-!
# BattleItems.Proofs.Reports

How the report of an effect follows from the reports of its actions.

An effect that is not interrupted either was turned away before its actions, and then it reports
none, or ran all of them (`Effect.IsAdmitted`), and then it reports one for each. Success and the
item that is spent are read off those reports (`EffectReport.IsConsistent`), and so is the message:
it depends on how many of them came out as the effect did (`EffectReport.Summarizes`).
-/

namespace BattleItems

/-! ### The reports of actions -/

/-- A report is on an action: it names the kind and the target that the action declares. -/
structure ActionReport.IsOn (report : ActionReport) (action : Action) : Prop where
  kind_eq : report.kind = action.kind.tag
  target_eq : report.target = action.target

namespace Action

variable {σ : Type} [DrawSource σ]
variable {action : Action} {actions : List Action} {scene after : Scene σ} {report : ActionReport}
  {reports : List ActionReport}

theorem report_isOn (h : action.execute scene = .ok report after) : report.IsOn action := by
  have hend := action.execute_ending scene
  rw [h] at hend
  cases hend with
  | stopped _ => exact ⟨rfl, rfl⟩
  | applied _ _ => exact ⟨rfl, rfl⟩

/-- Only a success spends the item. -/
theorem success_of_consumedItem (h : action.execute scene = .ok report after)
    (hconsumed : report.consumedItem = true) : report.success = true := by
  by_contra hfailed
  rw [Bool.not_eq_true] at hfailed
  rw [report_of_execute_failed h hfailed] at hconsumed
  cases hconsumed

/-- A list of actions that runs to its end has one report for each of them, in order. -/
theorem executeAll_forall₂ (h : executeAll actions scene = .ok reports after) :
    List.Forall₂ (fun report action => ∃ before after : Scene σ,
      action.execute before = .ok report after) reports actions := by
  induction actions generalizing scene reports with
  | nil =>
      cases h
      exact .nil
  | cons action rest ih =>
      obtain ⟨report, mid, others, hfirst, hrest, rfl⟩ := executeAll_cons_ok_iff.mp h
      exact .cons ⟨scene, mid, hfirst⟩ (ih hrest)

end Action

/-! ### The summary -/

/-- A count is never mistaken for the text that there was no effect. -/
theorem count_ne_noEffectMessage (count : Nat) (success : Bool) :
    (if success then s!"{count} effects applied" else s!"{count} actions failed") ≠
      noEffectMessage := by
  intro heq
  -- The counts end in a letter and that text in a full stop.
  have hlast := congrArg (fun text => text.toList.getLast?) heq
  cases success <;> simp [noEffectMessage, List.getLast?_append, toString] at hlast

namespace EffectReport

/-- The reports of the actions that came out as the whole effect did. -/
def decisive (report : EffectReport) : List ActionReport :=
  report.actions.filter (·.success == report.success)

/-- What the fields of a report on an effect have to do with the reports of its actions. -/
structure IsConsistent (report : EffectReport) (effect : Effect) : Prop where
  effect_eq : report.effect = effect.id
  /-- All actions are reported, each at its place, or none is. -/
  actions_eq : report.actions = [] ∨
    List.Forall₂ ActionReport.IsOn report.actions effect.actions
  success_iff : report.success = true ↔ ∃ made ∈ report.actions, made.success = true
  consumedItem_iff : report.consumedItem = true ↔
    ∃ made ∈ report.actions, made.consumedItem = true
  success_of_consumedItem : ∀ made ∈ report.actions,
    made.consumedItem = true → made.success = true
  /-- A failure never spends the item. -/
  consumedItem_of_failed : report.success = false → report.consumedItem = false

/-- What a report on an effect whose actions were run tells in its message. -/
structure Summarizes (report : EffectReport) (effect : Effect) : Prop where
  each : List.Forall₂ ActionReport.IsOn report.actions effect.actions
  /-- There is nothing to tell of exactly where there was nothing to do. -/
  decisive_eq_nil_iff : report.decisive = [] ↔ effect.actions = []
  message_of_none : report.decisive = [] → report.message = noEffectMessage
  message_of_one : ∀ only, report.decisive = [only] → report.message = only.message
  message_of_many : 2 ≤ report.decisive.length → report.message =
    if report.success then s!"{report.decisive.length} effects applied"
    else s!"{report.decisive.length} actions failed"
  /-- No other effect is told to have had none, but for one whose only decisive action says so in
  these very words. -/
  message_eq_noEffect_iff : report.message = noEffectMessage ↔ effect.actions = [] ∨
    ∃ only, report.decisive = [only] ∧ only.message = noEffectMessage

theorem isConsistent_rejected (effect : Effect) (reason : String) :
    (rejected effect.id reason).IsConsistent effect where
  effect_eq := rfl
  actions_eq := Or.inl rfl
  success_iff := by simp [rejected]
  consumedItem_iff := by simp [rejected]
  success_of_consumedItem := by simp [rejected]
  consumedItem_of_failed _ := rfl

end EffectReport

namespace Effect

variable {effect : Effect} {reports : List ActionReport}

theorem isConsistent_completed
    (heach : List.Forall₂ ActionReport.IsOn reports effect.actions)
    (hspent : ∀ made ∈ reports, made.consumedItem = true → made.success = true) :
    (effect.completed reports).IsConsistent effect where
  effect_eq := rfl
  actions_eq := Or.inr heach
  success_iff := by simp [completed]
  consumedItem_iff := by simp [completed]
  success_of_consumedItem := hspent
  consumedItem_of_failed hfailed := by
    rw [← Bool.not_eq_true] at hfailed ⊢
    intro hconsumed
    obtain ⟨made, hmade, hspends⟩ := List.any_eq_true.mp hconsumed
    exact hfailed (List.any_eq_true.mpr ⟨made, hmade, hspent made hmade hspends⟩)

/-- Where there are reports, one of them came out as the whole effect did. -/
theorem decisive_completed_eq_nil_iff :
    (effect.completed reports).decisive = [] ↔ reports = [] := by
  constructor
  · intro hnone
    have hother : ∀ made ∈ reports, ¬(made.success == reports.any (·.success)) = true :=
      List.filter_eq_nil_iff.mp hnone
    by_contra hne
    cases hsuccess : reports.any (·.success) with
    | true =>
        obtain ⟨made, hmade, hmadeSuccess⟩ := List.any_eq_true.mp hsuccess
        exact hother made hmade (by rw [hsuccess, hmadeSuccess]; rfl)
    | false =>
        obtain ⟨made, hmade⟩ := List.exists_mem_of_ne_nil reports hne
        have hmadeFailed : made.success = false := by
          simpa using List.any_eq_false.mp hsuccess made hmade
        exact hother made hmade (by rw [hsuccess, hmadeFailed]; rfl)
  · rintro rfl
    rfl

/-- The message in terms of the decisive reports. -/
theorem message_completed (effect : Effect) (reports : List ActionReport) :
    (effect.completed reports).message =
      match (effect.completed reports).decisive with
      | [] => noEffectMessage
      | [only] => only.message
      | pool => if (effect.completed reports).success then s!"{pool.length} effects applied"
        else s!"{pool.length} actions failed" := rfl

theorem message_completed_of_many (h : 2 ≤ (effect.completed reports).decisive.length) :
    (effect.completed reports).message =
      if (effect.completed reports).success then
        s!"{(effect.completed reports).decisive.length} effects applied"
      else s!"{(effect.completed reports).decisive.length} actions failed" := by
  rw [message_completed]
  match hpool : (effect.completed reports).decisive with
  | [] | [_] => simp [hpool] at h
  | _ :: _ :: _ => rfl

theorem summarizes_completed
    (heach : List.Forall₂ ActionReport.IsOn reports effect.actions) :
    (effect.completed reports).Summarizes effect := by
  have hnil : (effect.completed reports).decisive = [] ↔ effect.actions = [] := by
    rw [decisive_completed_eq_nil_iff, ← List.length_eq_zero_iff, heach.length_eq,
      List.length_eq_zero_iff]
  have hnone : (effect.completed reports).decisive = [] →
      (effect.completed reports).message = noEffectMessage := by
    intro h
    rw [message_completed, h]
  have hone : ∀ only, (effect.completed reports).decisive = [only] →
      (effect.completed reports).message = only.message := by
    intro only h
    rw [message_completed, h]
  refine ⟨heach, hnil, hnone, hone, message_completed_of_many, fun hmessage => ?_, ?_⟩
  · match hpool : (effect.completed reports).decisive with
    | [] => exact Or.inl (hnil.mp hpool)
    | [only] => exact Or.inr ⟨only, rfl, (hone only hpool).symm.trans hmessage⟩
    | _ :: _ :: _ =>
        rw [message_completed_of_many (by simp [hpool])] at hmessage
        exact absurd hmessage (count_ne_noEffectMessage _ _)
  · rintro (hempty | ⟨only, hpool, honly⟩)
    · exact hnone (hnil.mpr hempty)
    · exact (hone only hpool).trans honly

variable {σ : Type} [DrawSource σ]

/-- The conditions of an effect pass and its restrictions let it through, so that its actions are
run. -/
def IsAdmitted (effect : Effect) (ledger : Ledger) (scene : Scene σ) : Prop :=
  ∃ source, Condition.checkAll effect.conditions scene.context scene.source = .ok .passed source ∧
    ledger.refusal? effect scene.context.currentTurn = none

/-- **Reports agree with the reports of the actions.** A report without errors carries the id of its
effect; it lists all actions of the effect or none; it is a success exactly if one of them is, and
it spends the item exactly if one of them does, which only a success can. If the actions were run,
the message is that of the one action that came out as the effect did, or the count of several; that
there was no effect is what an effect without actions tells, and no other but one whose only
decisive action says so itself. -/
theorem report_agrees_with_actions (effect : Effect) (ledger : Ledger) (scene : Scene σ)
    (herrors : (effect.process ledger scene).1.errors = []) :
    let report := (effect.process ledger scene).1
    report.IsConsistent effect ∧
      (effect.IsAdmitted ledger scene → report.Summarizes effect) ∧
      (¬effect.IsAdmitted ledger scene → report.actions = []) := by
  rcases hrun : effect.process ledger scene with ⟨report, after⟩
  rw [hrun] at herrors
  cases ending_of_process hrun with
  | conditionsBroke _ | actionsBroke _ _ _ => cases herrors
  | conditionsFailed hcheck =>
      refine ⟨EffectReport.isConsistent_rejected effect _, ?_, fun _ => rfl⟩
      rintro ⟨_, hpassed, _⟩
      cases hcheck.symm.trans hpassed
  | refused _ hrefusal =>
      refine ⟨EffectReport.isConsistent_rejected effect _, ?_, fun _ => rfl⟩
      rintro ⟨_, _, hnone⟩
      cases hrefusal.symm.trans hnone
  | @completed source reports _ hcheck hrefusal hactions =>
      have hboth := (Action.executeAll_forall₂ hactions).imp fun made action ⟨_, _, hmade⟩ =>
        And.intro (Action.success_of_consumedItem hmade) (Action.report_isOn hmade)
      obtain ⟨hspent, heach⟩ := (List.forall₂_and_left _ _).mp hboth
      refine ⟨isConsistent_completed heach hspent, fun _ => summarizes_completed heach, ?_⟩
      intro hrefused
      exact absurd ⟨source, hcheck, hrefusal⟩ hrefused

/-- A lunch box for a healthy creature: there is nothing to heal, so two of its parts count. -/
theorem report_agrees_with_actions_lunch :
    let lunch : Effect := {
      id := "lunch", trigger := .onUse, restrictions := { oncePerBattle := true },
      conditions := [{ kind := .noStatus }],
      actions := [{ kind := .healFixed 5 },
        { kind := .teachMove { move := "stockpile", consumesItem := true } },
        { kind := .showMessage "Delicious!", target := .opponent }] }
    let scene : Scene Recorded := ⟨{ creature := { hp := 20, maxHp := 20 } }, { words := [] }⟩
    let report := (lunch.process {} scene).1
    report.errors = [] ∧ lunch.IsAdmitted {} scene ∧ report.IsConsistent lunch ∧
      report.Summarizes lunch ∧
      report.actions.map (fun made => (made.kind, made.target, made.success)) =
        [(.healFixed, .user, false), (.teachMove, .user, true), (.showMessage, .opponent, true)] ∧
      report.success = true ∧ report.consumedItem = true ∧
      report.message = "2 effects applied" := by
  intro lunch scene report
  have herrors : report.errors = [] := by decide +kernel
  have hadmitted : lunch.IsAdmitted {} scene := ⟨scene.source, rfl, rfl⟩
  obtain ⟨hconsistent, hsummarizes, -⟩ := report_agrees_with_actions lunch {} scene herrors
  exact ⟨herrors, hadmitted, hconsistent, hsummarizes hadmitted, by decide +kernel,
    by decide +kernel, by decide +kernel, by decide +kernel⟩

/-- **An effect with an action can tell that it had no effect.** The one action that came out as the
effect did speaks for it, whatever it says. -/
theorem message_of_quoted_no_effect :
    let dud : Effect := {
      id := "dud", trigger := .onUse, actions := [{ kind := .showMessage "It had no effect." }] }
    let scene : Scene Recorded := ⟨{}, { words := [] }⟩
    let report := (dud.process {} scene).1
    report.errors = [] ∧ dud.IsAdmitted {} scene ∧ report.success = true ∧
      ¬(report.message = noEffectMessage ↔ dud.actions = []) := by
  intro dud scene report
  have hmessage : report.message = noEffectMessage := by decide +kernel
  refine ⟨by decide +kernel, ⟨scene.source, rfl, rfl⟩, by decide +kernel, fun hiff => ?_⟩
  exact absurd (hiff.mp hmessage) (List.cons_ne_nil _ _)

end Effect

end BattleItems
