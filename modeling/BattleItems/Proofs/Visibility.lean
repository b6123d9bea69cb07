import BattleItems.Proofs.Calls

/-!
# BattleItems.Proofs.Visibility

Conditions see the user's side only.

`Context.seen` is what is left of a context without everything that no question reads: the opponent,
the trainer, the repellent that is left, the moves that the creature knows, and of a battle its turn
and the catch rate modifier. Questions are answered from what is seen (`ConditionKind.holds_seen`),
so in contexts that look the same conditions come to the same, draws, reasons and faults included.

Some actions write nothing but what is not seen (`Action.IsUnseen`). Looking the same is then a
relation that holds across each of their applications, so it holds across any run of them.
-/

namespace BattleItems

namespace Context

/-- What conditions see of a context. -/
def seen (context : Context) : Context where
  creature := { context.creature with moves := [] }
  opponent := none
  battle := context.battle.map fun battle => { battle with turn := 0, catchRateModifier := 0 }
  overworld := { context.overworld with repelSteps := 0 }
  trainer := {}
  history := context.history

end Context

variable {σ : Type} [DrawSource σ] {context first second : Context}

/-! ### Questions and conditions -/

theorem ConditionKind.holdsIn_seen (kind : ConditionKind) (context : Context) :
    kind.holdsIn context.seen = kind.holdsIn context := by
  cases kind with
  | battleType | moveType | superEffective | weather | terrain =>
      simp only [holdsIn, Context.seen]
      cases context.battle <;> rfl
  | hasStatus wanted => cases wanted <;> rfl
  | _ => rfl

theorem ConditionKind.holds_seen (kind : ConditionKind) (context : Context) :
    (kind.holds context.seen : Trial σ Bool) = kind.holds context := by
  cases kind with
  | randomChance => rfl
  | hpPercentage comparison =>
      simp only [holds, holdsIn_seen]
      rfl
  | _ => simp only [holds, holdsIn_seen]

theorem Condition.check_seen (condition : Condition) (context : Context) :
    (condition.check context.seen : Trial σ Verdict) = condition.check context := by
  simp only [check, ask, ConditionKind.holds_seen]

theorem Condition.checkAll_seen (conditions : List Condition) (context : Context) :
    (checkAll conditions context.seen : Trial σ Verdict) = checkAll conditions context := by
  induction conditions with
  | nil => rfl
  | cons condition rest ih => simp only [checkAll, check_seen, ih]

/-- Conditions come to the same in contexts that look the same. -/
theorem Condition.checkAll_congr (h : first.seen = second.seen) (conditions : List Condition) :
    (checkAll conditions first : Trial σ Verdict) = checkAll conditions second := by
  rw [← checkAll_seen conditions first, h, checkAll_seen]

/-! ### What actions write -/

/-- An action that writes nothing that conditions see. -/
def Action.IsUnseen (action : Action) : Prop :=
  action.target = .opponent ∨ action.kind.tag ∈
    [.teachMove, .modifyCatchRate, .preventWildEncounters, .showMessage, .consumeItem]

instance (action : Action) : Decidable action.IsUnseen :=
  inferInstanceAs (Decidable (_ ∨ _))

theorem Creature.learn_eq (creature : Creature) (lesson : Lesson) :
    (creature.learn lesson).2 = { creature with moves := (creature.learn lesson).2.moves } := by
  simp only [learn]
  split
  · split <;> rfl
  · rfl

section Writes

variable {kind : ActionKind} {target : Target} {after : Context} {effort : Effort}

/-- An application that aims at the opponent is not seen: all that it writes of the user's side is
the catch rate modifier and the repellent. -/
theorem ActionKind.seen_of_apply_opponent
    (h : kind.apply .opponent context = .ok effort after) : after.seen = context.seen := by
  cases apply_outcome h with
  | failed | spent | said | repelled | onCreature _ _ => rfl
  | catchRate hbattle => simp only [Context.seen, hbattle, Option.map_some]

theorem ActionKind.seen_of_apply_teachMove {lesson : Lesson}
    (h : (teachMove lesson).apply .user context = .ok effort after) :
    after.seen = context.seen := by
  have hkind : (teachMove lesson).creatureChange? =
      some fun creature => .done (creature.learn lesson) := rfl
  have hpresent : context.target? .user = some context.creature := rfl
  rw [apply_of_creatureChange?_ok hkind hpresent] at h
  cases h
  simp only [Context.seen, Context.update]
  rw [Creature.learn_eq]

theorem Action.IsUnseen.seen_of_apply {action : Action} (hunseen : action.IsUnseen)
    (h : action.kind.apply action.target context = .ok effort after) :
    after.seen = context.seen := by
  obtain ⟨kind, target⟩ := action
  rcases hunseen with rfl | htag
  · exact ActionKind.seen_of_apply_opponent h
  · -- Of these kinds only a lesson looks at its target.
    cases kind with
    | teachMove lesson =>
        cases target with
        | user => exact ActionKind.seen_of_apply_teachMove h
        | opponent => exact ActionKind.seen_of_apply_opponent h
    | modifyCatchRate | preventWildEncounters | showMessage | consumeItem =>
        rw [ActionKind.apply_of_creatureChange?_none rfl target .opponent] at h
        exact ActionKind.seen_of_apply_opponent h
    | healFixed | healPercentage | cureStatus | boostStat | evolve | unrecognized =>
        simp [ActionKind.tag] at htag

/-- Looking the same is kept by every run of actions that are not seen. -/
theorem seen_footprint :
    Footprint Action.IsUnseen fun before after => after.seen = before.seen where
  refl _ := rfl
  trans hab hbc := hbc.trans hab
  apply hunseen := hunseen.seen_of_apply

end Writes

/-! ### Conditions behind actions -/

/-- **Conditions see the user's side only.** In two contexts that look the same, a list of
conditions comes to the same from any source: the same verdict, reason or interruption, and the same
source behind it. Hence no action that aims at the opponent, and no lesson, catch rate multiplier,
repellent, message or item spent, changes what conditions behind it come to, however the action
ends; without gates of its own, it leaves them their source as well. Neither does any number of
calls change it that are made of such actions. -/
theorem conditions_see_users_side (conditions : List Condition) :
    (∀ first second : Context, first.seen = second.seen → ∀ source : σ,
      Condition.checkAll conditions first source = Condition.checkAll conditions second source) ∧
    (∀ action : Action, action.IsUnseen → ∀ (scene : Scene σ) (source : σ),
      match action.execute scene with
      | .ok _ after | .error _ after =>
        Condition.checkAll conditions after.context source =
            Condition.checkAll conditions scene.context source ∧
          (action.IsUngated → after.source = scene.source)) ∧
    ∀ calls : List (Call σ),
      (∀ call ∈ calls, ∀ effect ∈ call.effects, ∀ action ∈ effect.actions, action.IsUnseen) →
      ∀ (context : Context) (source : σ),
        Condition.checkAll conditions (Call.playAll calls context).2 source =
          Condition.checkAll conditions context source := by
  have hcongr : ∀ first second : Context, first.seen = second.seen → ∀ source : σ,
      Condition.checkAll conditions first source = Condition.checkAll conditions second source :=
    fun first second h source => congrFun (Condition.checkAll_congr h conditions) source
  refine ⟨hcongr, fun action hunseen scene source => ?_, fun calls hunseen context source => ?_⟩
  · cases hrun : action.execute scene with
    | ok report after =>
        exact ⟨hcongr _ _ (seen_footprint.execute_ok hunseen hrun) source,
          fun hungated => hungated.source_of_execute_ok hrun⟩
    | error cause after =>
        exact ⟨by rw [Action.context_of_execute_error hrun],
          fun hungated => hungated.source_of_execute_error hrun⟩
  · exact hcongr _ _ (seen_footprint.playAll hunseen context).1 source

/-- The opponent is awake or asleep, the move is known or not, and it is the first turn or the
third: the creature is asked about all the same. A lesson, and a berry for the opponent, change
nothing about the answer. -/
theorem conditions_see_users_side_berry :
    let awake : Context :=
      { creature := { species := "eevee", hp := 10, maxHp := 20 }
        opponent := some { species := "gengar", hp := 5, maxHp := 30 }
        battle := some {} }
    let asleep : Context := { awake with
      creature := { awake.creature with moves := ["bite"] }
      opponent := some { species := "gengar", hp := 5, maxHp := 30, status := some .sleep }
      battle := some { turn := 3 } }
    let healthy : List Condition :=
      [{ kind := .noStatus }, { kind := .battleType [.wild] }]
    let lesson : Action := { kind := .teachMove { move := "bite" } }
    let berry : Action := { kind := .healFixed 10, target := .opponent }
    let picnic : Effect := { id := "picnic", trigger := .onUse, actions := [berry, lesson] }
    let draws : Recorded := { words := [7] }
    Condition.checkAll healthy asleep draws = .ok .passed draws ∧
      (∀ report after, lesson.execute ⟨awake, draws⟩ = .ok report after →
        after.context.creature.moves = ["bite"] ∧
          Condition.checkAll healthy after.context draws = .ok .passed draws) ∧
      Condition.checkAll healthy
          (Call.playAll [.single picnic {} draws] awake).2 draws =
        .ok .passed draws := by
  intro awake asleep healthy lesson berry picnic draws
  obtain ⟨hseen, hexecute, hcalls⟩ := conditions_see_users_side (σ := Recorded) healthy
  have hawake : Condition.checkAll healthy awake draws = .ok .passed draws := rfl
  refine ⟨(hseen asleep awake rfl draws).trans hawake, fun report after hrun => ?_, ?_⟩
  · have hlesson := hexecute lesson (by decide) ⟨awake, draws⟩ draws
    rw [hrun] at hlesson
    refine ⟨?_, hlesson.1.trans hawake⟩
    cases hrun
    rfl
  · refine (hcalls _ (fun call hcall effect heffect action haction => ?_) awake draws).trans hawake
    obtain rfl := List.mem_singleton.mp hcall
    obtain rfl := List.mem_singleton.mp heffect
    rcases List.mem_pair.mp haction with rfl | rfl <;> decide

end BattleItems
