import BattleItems.Proofs.Applications
import BattleItems.Proofs.BatchRuns

/-!
# BattleItems.Proofs.Footprint

What item effects may change in a context.

Only `ActionKind.apply` writes to the context, so a relation between the context before and after
has to be checked there and nowhere else: if it is reflexive and transitive and holds across every
application (`Footprint`), it holds across actions, lists of actions, effects and batches, however
they end. The lemmas that lift it are at the end of the module.

The relation that is used most is `Context.Treated`: which fields are written at all, that no
creature loses HP, and that none gets above its maximum.
-/

namespace BattleItems

/-! ### What happens to a creature -/

namespace Creature

/-- What item effects can make of a creature. -/
structure Treated (before after : Creature) : Prop where
  /-- No other fields are written. -/
  frame : after = { before with
    species := after.species
    hp := after.hp
    status := after.status
    stats := after.stats
    moves := after.moves }
  hp_le : before.hp ≤ after.hp
  hp_le_maxHp : before.hp ≤ before.maxHp → after.hp ≤ after.maxHp

namespace Treated

theorem refl (creature : Creature) : creature.Treated creature :=
  ⟨rfl, UInt32.le_refl _, id⟩

theorem trans {a b c : Creature} (hab : a.Treated b) (hbc : b.Treated c) : a.Treated c where
  frame := by rw [hbc.frame, hab.frame]
  hp_le := UInt32.le_trans hab.hp_le hbc.hp_le
  hp_le_maxHp := fun h => hbc.hp_le_maxHp (hab.hp_le_maxHp h)

theorem maxHp_eq {before after : Creature} (h : before.Treated after) :
    after.maxHp = before.maxHp := by rw [h.frame]

/-- A change that leaves HP and maximum alone. -/
theorem of_hp_eq {before after : Creature} (hframe : after = { before with
      species := after.species
      status := after.status
      stats := after.stats
      moves := after.moves }) : before.Treated after := by
  rw [hframe]
  exact ⟨rfl, UInt32.le_refl _, id⟩

end Treated

end Creature

theorem ActionKind.CreatureOutcome.treated {kind : ActionKind} {creature later : Creature}
    {effort : Effort} (h : kind.CreatureOutcome creature effort later) :
    creature.Treated later := by
  cases h with
  | failed | known => exact .refl creature
  | healed hroom =>
      refine ⟨rfl, ?_, fun _ => ?_⟩ <;>
        rw [UInt32.le_iff_toNat_le, Creature.toNat_hp_add hroom]
      · omega
      · exact hroom
  | cured _ | boosted _ | evolved _ | learned _ => exact .of_hp_eq rfl

/-- What item effects can make of a battle. -/
def Battle.Treated (before after : Battle) : Prop :=
  after = { before with catchRateModifier := after.catchRateModifier }

namespace Battle.Treated

theorem refl (battle : Battle) : battle.Treated battle := rfl

theorem trans {a b c : Battle} (hab : a.Treated b) (hbc : b.Treated c) : a.Treated c := by
  rw [Battle.Treated] at *
  rw [hbc, hab]

theorem turn_eq {before after : Battle} (h : before.Treated after) : after.turn = before.turn := by
  rw [h]

end Battle.Treated

/-! ### What happens to a context -/

section Optional

variable {α : Type} {R : α → α → Prop}

theorem rel_refl (h : ∀ a, R a a) : ∀ a : Option α, Option.Rel R a a
  | none => .none
  | some a => .some (h a)

theorem rel_trans (h : ∀ a b c, R a b → R b c → R a c) {a b c : Option α}
    (hab : Option.Rel R a b) (hbc : Option.Rel R b c) : Option.Rel R a c := by
  cases hab with
  | none => exact hbc
  | some hab =>
      cases hbc with
      | some hbc => exact .some (h _ _ _ hab hbc)

end Optional

namespace Context

@[simp] theorem target?_update_self (context : Context) (target : Target) (creature : Creature) :
    (context.update target creature).target? target = some creature := by
  cases target <;> rfl

@[simp] theorem update_update (context : Context) (target : Target) (creature another : Creature) :
    (context.update target creature).update target another = context.update target another := by
  cases target <;> rfl

theorem target?_update_of_ne {target other : Target} (context : Context) (creature : Creature)
    (h : other ≠ target) : (context.update target creature).target? other =
      context.target? other := by
  cases target <;> cases other
  case user.user | opponent.opponent => exact absurd rfl h
  case user.opponent | opponent.user => rfl

/-- Different targets are different places. -/
theorem update_comm {target other : Target} (h : other ≠ target) (context : Context)
    (creature another : Creature) :
    (context.update target creature).update other another =
      (context.update other another).update target creature := by
  cases target <;> cases other
  case user.user | opponent.opponent => exact absurd rfl h
  case user.opponent | opponent.user => rfl

/-- Putting a creature in the place of another relates the two, and every other creature to
itself. -/
theorem rel_target?_update {R : Creature → Creature → Prop}
    (hrefl : ∀ creature, R creature creature) {context : Context} {target : Target}
    {creature after : Creature}
    (hpresent : context.target? target = some creature) (h : R creature after) (other : Target) :
    Option.Rel R (context.target? other) ((context.update target after).target? other) := by
  by_cases hother : other = target
  · subst hother
    rw [target?_update_self, hpresent]
    exact .some h
  · rw [target?_update_of_ne context after hother]
    exact rel_refl hrefl _

theorem hpWithinMax_iff {context : Context} : context.HpWithinMax ↔
    ∀ target creature, context.target? target = some creature → creature.hp ≤ creature.maxHp := by
  simp only [HpWithinMax, creatures, List.mem_cons, Option.mem_toList, forall_eq_or_imp]
  constructor
  · rintro ⟨huser, hopponent⟩ target creature htarget
    cases target with
    | user =>
        obtain rfl := Option.some.inj htarget
        exact huser
    | opponent => exact hopponent creature htarget
  · intro h
    exact ⟨h .user context.creature rfl, h .opponent⟩

/-- What item effects can make of a context. -/
structure Treated (before after : Context) : Prop where
  creatures (target : Target) :
    Option.Rel Creature.Treated (before.target? target) (after.target? target)
  battle : Option.Rel Battle.Treated before.battle after.battle
  overworld : after.overworld = { before.overworld with repelSteps := after.overworld.repelSteps }
  trainer : after.trainer = before.trainer
  history : after.history = before.history

namespace Treated

theorem refl (context : Context) : context.Treated context where
  creatures _ := rel_refl Creature.Treated.refl _
  battle := rel_refl Battle.Treated.refl _
  overworld := rfl
  trainer := rfl
  history := rfl

theorem trans {a b c : Context} (hab : a.Treated b) (hbc : b.Treated c) : a.Treated c where
  creatures target :=
    rel_trans (R := Creature.Treated) (fun _ _ _ => Creature.Treated.trans)
      (hab.creatures target) (hbc.creatures target)
  battle :=
    rel_trans (R := Battle.Treated) (fun _ _ _ => Battle.Treated.trans) hab.battle hbc.battle
  overworld := by rw [hbc.overworld, hab.overworld]
  trainer := hbc.trainer.trans hab.trainer
  history := hbc.history.trans hab.history

/-- One creature was treated, and nothing else was written. -/
theorem update {context : Context} {target : Target} {creature after : Creature}
    (hpresent : context.target? target = some creature) (h : creature.Treated after) :
    context.Treated (context.update target after) where
  creatures := rel_target?_update Creature.Treated.refl hpresent h
  battle := by cases target <;> exact rel_refl Battle.Treated.refl _
  overworld := by cases target <;> rfl
  trainer := by cases target <;> rfl
  history := by cases target <;> rfl

variable {before after : Context}

/-- No action moves the turn. -/
theorem currentTurn_eq (h : before.Treated after) : after.currentTurn = before.currentTurn := by
  have hbattle := h.battle
  simp only [currentTurn]
  cases hbefore : before.battle with
  | none =>
      rw [hbefore] at hbattle
      cases hafter : after.battle with
      | none => rfl
      | some battle => simp [hafter] at hbattle
  | some battle =>
      rw [hbefore] at hbattle
      cases hafter : after.battle with
      | none => simp [hafter] at hbattle
      | some later =>
          rw [hafter, Option.rel_some_some] at hbattle
          exact hbattle.turn_eq

theorem creature_treated (h : before.Treated after) : before.creature.Treated after.creature :=
  Option.rel_some_some.mp (h.creatures .user)

theorem hpWithinMax (h : before.Treated after) (hbefore : before.HpWithinMax) :
    after.HpWithinMax := by
  rw [hpWithinMax_iff] at hbefore ⊢
  intro target later hlater
  have htarget := h.creatures target
  rw [hlater] at htarget
  cases hearlier : before.target? target with
  | none => simp [hearlier] at htarget
  | some earlier =>
      rw [hearlier, Option.rel_some_some] at htarget
      exact htarget.hp_le_maxHp (hbefore target earlier hearlier)

end Treated

end Context

/-- What an application writes is within the footprint. -/
theorem ActionKind.apply_treated {kind : ActionKind} {target : Target} {context after : Context}
    {effort : Effort} (h : kind.apply target context = .ok effort after) :
    context.Treated after := by
  cases apply_outcome h with
  | failed | spent | said => exact .refl context
  | onCreature hpresent houtcome => exact .update hpresent houtcome.treated
  | catchRate hbattle =>
      exact ⟨fun target => by cases target <;> exact rel_refl Creature.Treated.refl _,
        hbattle ▸ .some rfl, rfl, rfl, rfl⟩
  | repelled =>
      exact ⟨fun target => by cases target <;> exact rel_refl Creature.Treated.refl _,
        rel_refl Battle.Treated.refl _, rfl, rfl, rfl⟩

/-! ### Relations kept by every application -/

/-- A relation between contexts that holds across any number of applications of the actions in
`allowed`. -/
structure Footprint (allowed : Action → Prop) (R : Context → Context → Prop) : Prop where
  refl (context : Context) : R context context
  trans {a b c : Context} : R a b → R b c → R a c
  apply {action : Action} {context after : Context} {effort : Effort} : allowed action →
    action.kind.apply action.target context = .ok effort after → R context after

namespace Footprint

variable {σ : Type} [DrawSource σ]
variable {allowed : Action → Prop} {R : Context → Context → Prop}
  {scene after : Scene σ} {ledger : Ledger}

theorem execute_ok (hR : Footprint allowed R) {action : Action} {report : ActionReport}
    (hallowed : allowed action) (hrun : action.execute scene = .ok report after) :
    R scene.context after.context := by
  have hend := action.execute_ending scene
  rw [hrun] at hend
  cases hend with
  | stopped _ => exact hR.refl _
  | applied _ happly => exact hR.apply hallowed happly

theorem executeAll_ok (hR : Footprint allowed R) {actions : List Action}
    {reports : List ActionReport} (hallowed : ∀ action ∈ actions, allowed action)
    (hrun : Action.executeAll actions scene = .ok reports after) :
    R scene.context after.context := by
  induction actions generalizing scene reports with
  | nil =>
      cases hrun
      exact hR.refl _
  | cons action rest ih =>
      obtain ⟨report, mid, others, hfirst, hrest, -⟩ := Action.executeAll_cons_ok_iff.mp hrun
      exact hR.trans (hR.execute_ok (hallowed action List.mem_cons_self) hfirst)
        (ih (fun a ha => hallowed a (List.mem_cons_of_mem _ ha)) hrest)

/-- A list of actions that is interrupted leaves the context that its last whole action left. -/
theorem executeAll_error (hR : Footprint allowed R) {actions : List Action}
    {cause : Interruption} (hallowed : ∀ action ∈ actions, allowed action)
    (hrun : Action.executeAll actions scene = .error cause after) :
    R scene.context after.context := by
  obtain ⟨before, broken, rest, reports, mid, rfl, hbefore, hbroken⟩ :=
    Action.executeAll_error_iff.mp hrun
  rw [Action.context_of_execute_error hbroken]
  exact hR.executeAll_ok (fun a ha => hallowed a (List.mem_append_left _ ha)) hbefore

theorem process (hR : Footprint allowed R) {effect : Effect} {report : EffectReport}
    (hallowed : ∀ action ∈ effect.actions, allowed action)
    (hrun : effect.process ledger scene = (report, after)) : R scene.context after.context := by
  cases Effect.ending_of_process hrun with
  | conditionsBroke _ => exact hR.refl _
  | conditionsFailed _ => exact hR.refl _
  | refused _ _ => exact hR.refl _
  | actionsBroke _ _ hactions =>
      have h := hR.executeAll_error hallowed hactions
      exact h
  | completed _ _ hactions =>
      have h := hR.executeAll_ok hallowed hactions
      exact h

/-- A batch: each of its effects was run in a context that is related to the first. -/
theorem batch (hR : Footprint allowed R) {settings : Settings} {effects : List Effect}
    {trigger : Trigger} (hallowed : ∀ effect ∈ effects, ∀ action ∈ effect.actions, allowed action) :
    R scene.context (Batch.process settings effects trigger ledger scene).2.context ∧
      ∀ report ∈ (Batch.process settings effects trigger ledger scene).1,
        ∃ effect ∈ effects, ∃ mid after : Scene σ, R scene.context mid.context ∧
          effect.process ledger mid = (report, after) := by
  exact Batch.process_keeps settings trigger ledger (I := fun mid => R scene.context mid.context)
    (fun effect heffect mid hmid => hR.trans hmid (hR.process (hallowed effect heffect) rfl))
    (hR.refl scene.context)

end Footprint

/-- Every run of the engine treats the context. -/
theorem treated_footprint : Footprint (fun _ => True) Context.Treated where
  refl := Context.Treated.refl
  trans := Context.Treated.trans
  apply _ := ActionKind.apply_treated

end BattleItems
