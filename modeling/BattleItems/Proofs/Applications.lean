import Mathlib.Data.UInt
import BattleItems.Action.Apply

/-!
# BattleItems.Proofs.Applications

What applying an action can come to.

There is one case for each thing that can become of the creature aimed at
(`ActionKind.CreatureOutcome`) and of the context (`ActionKind.Outcome`), and
`ActionKind.apply_outcome` says that an application which goes through comes to one of them. What
later modules say of applications is read off these cases: what may be written, what is reported,
and that a failure changes nothing. None of them opens the code of the kinds. An application that
meets a fault comes to no case; that it leaves the context as it was is the last section.
-/

namespace BattleItems

/-- What an action of a kind can come to for the creature that it aims at: the effort, and the
creature afterwards. The kind is named only where the creature alone does not tell what became of
it. -/
inductive ActionKind.CreatureOutcome (kind : ActionKind) (creature : Creature) :
    Effort → Creature → Prop
  | failed {message : String} : CreatureOutcome kind creature (.failed message) creature
  | healed {amount : UInt32} {message : String}
      (hroom : creature.hp.toNat + amount.toNat ≤ creature.maxHp.toNat) :
      CreatureOutcome kind creature (.succeeded (.healed amount) message false)
        { creature with hp := creature.hp + amount }
  | cured {status : Status} {message : String} (hstatus : creature.status = some status) :
      CreatureOutcome kind creature (.succeeded (.statusCured status) message false)
        { creature with status := none }
  | boosted {stat : StatKind} {before after : UInt32} {message : String}
      (hstat : creature.stats.get? stat = some before) :
      CreatureOutcome kind creature (.succeeded (.statChanged stat before after) message false)
        (creature.withStat stat after)
  | evolved {evolution : Evolution} {message : String} (hkind : kind = .evolve evolution) :
      CreatureOutcome kind creature
        (.succeeded (.evolved creature.species evolution.into) message true)
        { creature with species := evolution.into }
  | learned {move message : String} {consumed : Bool} (hnew : move ∉ creature.moves) :
      CreatureOutcome kind creature (.succeeded (.moveLearned move true) message consumed)
        { creature with moves := creature.moves ++ [move] }
  | known {move message : String} {consumed : Bool} :
      CreatureOutcome kind creature (.succeeded (.moveLearned move false) message consumed)
        creature

/-- What an action of a kind can come to for the context: the effort, and the context
afterwards. -/
inductive ActionKind.Outcome (kind : ActionKind) (target : Target) (context : Context) :
    Effort → Context → Prop
  | failed {message : String} : Outcome kind target context (.failed message) context
  | onCreature {creature later : Creature} {effort : Effort}
      (hpresent : context.target? target = some creature)
      (houtcome : kind.CreatureOutcome creature effort later) :
      Outcome kind target context effort (context.update target later)
  | catchRate {battle : Battle} {multiplier total : Binary64} {message : String}
      (hbattle : context.battle = some battle) (hkind : kind = .modifyCatchRate multiplier)
      (hmultiplier : multiplier.isNonNegative = true)
      (htotal : total = battle.catchRateModifier * multiplier) :
      Outcome kind target context (.succeeded (.catchRate multiplier total) message true)
        { context with battle := some { battle with catchRateModifier := total } }
  | repelled {steps : UInt32} {message : String} :
      Outcome kind target context (.succeeded (.encounterSteps steps) message false)
        { context with overworld := { context.overworld with repelSteps := steps } }
  | spent {message : String} : Outcome kind target context (.succeeded .none message true) context
  | said {text message : String} :
      Outcome kind target context (.succeeded (.message text) message false) context

/-! ### Healing a creature -/

namespace Creature

variable {creature : Creature} {amount : UInt32}

/-- Up to the maximum, which is a word, the sum of words is exact. -/
theorem toNat_hp_add (hroom : creature.hp.toNat + amount.toNat ≤ creature.maxHp.toNat) :
    (creature.hp + amount).toNat = creature.hp.toNat + amount.toNat := by
  have hmax := creature.maxHp.toNat_lt
  rw [UInt32.toNat_add, Nat.mod_eq_of_lt (by omega)]

/-- Where there is room, the amount is restored as far as there is room. -/
theorem restore_of_hurt (h : creature.hp < creature.maxHp) (amount : UInt32) :
    ∃ healed, creature.restore amount =
        .ok (.succeeded (.healed healed) s!"{creature.species} recovered {healed} HP" false)
          { creature with hp := creature.hp + healed } ∧
      healed.toNat = min amount.toNat (creature.maxHp.toNat - creature.hp.toNat) ∧
      (creature.hp + healed).toNat = creature.hp.toNat + healed.toNat := by
  have hle : creature.hp ≤ creature.maxHp := UInt32.le_of_lt h
  have hroom : creature.isFullHp = false := by
    simp only [isFullHp, UInt32.not_le.mpr h, decide_false]
  have hhealed : (min amount (creature.maxHp - creature.hp)).toNat =
      min amount.toNat (creature.maxHp.toNat - creature.hp.toNat) := by
    rw [UInt32.toNat_min, UInt32.toNat_sub_of_le _ _ hle]
  rw [UInt32.lt_iff_toNat_lt] at h
  refine ⟨min amount (creature.maxHp - creature.hp), ?_, hhealed, toNat_hp_add (by omega)⟩
  simp only [restore, excessHp?, hle, hroom, if_true, Bool.false_eq_true, if_false]

theorem restore_of_full (h : creature.hp = creature.maxHp) (amount : UInt32) :
    creature.restore amount = .ok (.failed "Already at full HP") creature := by
  simp only [restore, excessHp?, isFullHp, h, UInt32.le_refl, if_true, decide_true]

theorem restore_of_excess (h : creature.maxHp < creature.hp) (amount : UInt32) :
    ∃ detail, creature.restore amount = .error (.invalidContext detail) creature := by
  simp only [restore, excessHp?, UInt32.not_le.mpr h, if_false]
  exact ⟨_, rfl⟩

/-- All that restoring HP comes to. -/
theorem restore_cases (creature : Creature) (amount : UInt32) :
    (∃ healed, creature.hp.toNat + healed.toNat ≤ creature.maxHp.toNat ∧
        creature.restore amount =
          .ok (.succeeded (.healed healed) s!"{creature.species} recovered {healed} HP" false)
            { creature with hp := creature.hp + healed }) ∨
      creature.restore amount = .ok (.failed "Already at full HP") creature ∨
      ∃ detail, creature.restore amount = .error (.invalidContext detail) creature := by
  by_cases hle : creature.hp ≤ creature.maxHp
  · rcases UInt32.lt_or_eq_of_le hle with hhurt | hfull
    · obtain ⟨healed, hrestore, hhealed, -⟩ := restore_of_hurt hhurt amount
      rw [UInt32.lt_iff_toNat_lt] at hhurt
      exact Or.inl ⟨healed, by omega, hrestore⟩
    · exact Or.inr (Or.inl (restore_of_full hfull amount))
  · exact Or.inr (Or.inr (restore_of_excess (UInt32.not_le.mp hle) amount))

end Creature

/-! ### Changes to a creature -/

section Creatures

variable {kind : ActionKind} {creature later : Creature} {effort : Effort}

theorem Creature.restore_outcome {amount : UInt32}
    (h : creature.restore amount = .ok effort later) :
    kind.CreatureOutcome creature effort later := by
  rcases creature.restore_cases amount with ⟨healed, hroom, hrestore⟩ | hrestore | ⟨_, hrestore⟩
  · cases hrestore.symm.trans h
    exact .healed hroom
  · cases hrestore.symm.trans h
    exact .failed
  · cases hrestore.symm.trans h

theorem Creature.cure_outcome (creature : Creature) (wanted : Option Status) :
    kind.CreatureOutcome creature (creature.cure wanted).1 (creature.cure wanted).2 := by
  unfold cure
  split
  · exact .failed
  · rename_i current hstatus
    split
    · exact .cured hstatus
    · split
      · exact .cured hstatus
      · exact .failed

theorem Creature.boost_outcome (creature : Creature) (stat : StatKind) (stages : Int32) :
    kind.CreatureOutcome creature (creature.boost stat stages).1
      (creature.boost stat stages).2 := by
  unfold boost
  split
  · exact .failed
  · rename_i before hstat
    exact .boosted hstat

theorem Creature.evolve_outcome (creature : Creature) (evolution : Evolution) :
    (ActionKind.evolve evolution).CreatureOutcome creature (creature.evolve evolution).1
      (creature.evolve evolution).2 := by
  unfold evolve
  split
  · exact .failed
  · split
    · exact .evolved rfl
    · exact .failed

theorem Creature.learn_outcome (creature : Creature) (lesson : Lesson) :
    kind.CreatureOutcome creature (creature.learn lesson).1 (creature.learn lesson).2 := by
  simp only [learn]
  split
  · split
    · exact .known
    · rename_i hknows
      exact .learned (by simpa [knows] using hknows)
  · exact .failed

/-- A change to the creature aimed at comes to what the change comes to; without a creature it
fails. -/
theorem Context.onTarget_outcome {context after : Context} {target : Target}
    {change : Creature → Application Creature}
    (hchange : ∀ creature effort later, change creature = .ok effort later →
      kind.CreatureOutcome creature effort later)
    (h : context.onTarget target change = .ok effort after) :
    kind.Outcome target context effort after := by
  unfold onTarget at h
  cases hpresent : context.target? target with
  | none =>
      simp only [hpresent] at h
      cases h
      exact .failed
  | some creature =>
      simp only [hpresent] at h
      cases hresult : change creature with
      | error fault later =>
          rw [hresult] at h
          cases h
      | ok effort later =>
          rw [hresult] at h
          cases h
          exact .onCreature hpresent (hchange creature effort later hresult)

theorem Context.onTarget_ok_outcome {context after : Context} {target : Target}
    {change : Creature → Effort × Creature}
    (hchange : ∀ creature : Creature,
      kind.CreatureOutcome creature (change creature).1 (change creature).2)
    (h : context.onTarget target (fun creature => .done (change creature)) = .ok effort after) :
    kind.Outcome target context effort after := by
  refine onTarget_outcome (fun creature effort later hlater => ?_) h
  cases hlater
  exact hchange creature

end Creatures

/-- One case for each kind. -/
theorem ActionKind.apply_outcome {kind : ActionKind} {target : Target} {context after : Context}
    {effort : Effort} (h : kind.apply target context = .ok effort after) :
    kind.Outcome target context effort after := by
  cases kind with
  | healFixed amount =>
      exact Context.onTarget_outcome (fun _ _ _ => Creature.restore_outcome) h
  | healPercentage percent =>
      simp only [apply] at h
      split at h
      · exact Context.onTarget_outcome (fun _ _ _ => Creature.restore_outcome) h
      · cases h
  | cureStatus wanted => exact Context.onTarget_ok_outcome (·.cure_outcome wanted) h
  | boostStat stat stages => exact Context.onTarget_ok_outcome (·.boost_outcome stat stages) h
  | evolve evolution => exact Context.onTarget_ok_outcome (·.evolve_outcome evolution) h
  | teachMove lesson => exact Context.onTarget_ok_outcome (·.learn_outcome lesson) h
  | modifyCatchRate multiplier =>
      simp only [apply] at h
      split at h
      · rename_i hmultiplier
        simp only [Context.multiplyCatchRate] at h
        split at h
        · cases h
          exact .failed
        · rename_i battle hbattle
          cases h
          exact .catchRate hbattle rfl hmultiplier rfl
      · cases h
  | consumeItem =>
      cases h
      exact .spent
  | showMessage text =>
      cases h
      exact .said
  | preventWildEncounters steps =>
      cases h
      exact .repelled
  | unrecognized name =>
      cases h
      exact .failed

/-! ### The creature aimed at -/

/-- What a kind does to the creature that it aims at; nothing is said of a kind that does not aim at
a creature. -/
def ActionKind.creatureChange? :
    ActionKind → Option (Creature → Application Creature)
  | healFixed amount => some (·.restore amount)
  | healPercentage percent => some fun creature =>
    if percent.isNonNegative then creature.restore (creature.shareOfMaxHp percent)
    else .error (.notNonNegative "heal percentage" percent) creature
  | cureStatus wanted => some fun creature => .done (creature.cure wanted)
  | boostStat stat stages => some fun creature => .done (creature.boost stat stages)
  | evolve evolution => some fun creature => .done (creature.evolve evolution)
  | teachMove lesson => some fun creature => .done (creature.learn lesson)
  | modifyCatchRate _ | consumeItem | showMessage _ | preventWildEncounters _ | unrecognized _ =>
    none

theorem ActionKind.isSome_creatureChange?_iff {kind : ActionKind} :
    kind.creatureChange?.isSome = true ↔ kind.tag ∈
      [.healFixed, .healPercentage, .cureStatus, .boostStat, .evolve, .teachMove] := by
  cases kind <;> simp [creatureChange?, tag]

theorem Context.onTarget_of_present {context : Context} {target : Target} {creature : Creature}
    (hpresent : context.target? target = some creature)
    (change : Creature → Application Creature) :
    context.onTarget target change = (change creature).mapState (context.update target) := by
  simp only [onTarget, hpresent]

/-- Putting a creature in its own place changes nothing. -/
theorem Context.update_of_target? {context : Context} {target : Target} {creature : Creature}
    (h : context.target? target = some creature) : context.update target creature = context := by
  cases target with
  | user =>
      cases h
      rfl
  | opponent =>
      simp only [target?] at h
      rw [update, ← h]

/-- A kind that aims at a creature which is there changes that creature and nothing else. -/
theorem ActionKind.apply_of_creatureChange? {kind : ActionKind}
    {change : Creature → Application Creature} {context : Context} {target : Target}
    {creature : Creature} (hkind : kind.creatureChange? = some change)
    (hpresent : context.target? target = some creature) :
    kind.apply target context = (change creature).mapState (context.update target) := by
  cases kind with
  | healPercentage percent =>
      obtain rfl := Option.some.inj hkind
      simp only [apply]
      split
      · exact Context.onTarget_of_present hpresent _
      · rw [Application.mapState, Context.update_of_target? hpresent]
  | healFixed | cureStatus | boostStat | evolve | teachMove =>
      obtain rfl := Option.some.inj hkind
      exact Context.onTarget_of_present hpresent _
  | modifyCatchRate | consumeItem | showMessage | preventWildEncounters | unrecognized =>
      cases hkind

theorem ActionKind.apply_of_creatureChange?_ok {kind : ActionKind}
    {change : Creature → Effort × Creature} {context : Context} {target : Target}
    {creature : Creature}
    (hkind : kind.creatureChange? = some fun creature => .done (change creature))
    (hpresent : context.target? target = some creature) :
    kind.apply target context =
      .ok (change creature).1 (context.update target (change creature).2) :=
  apply_of_creatureChange? hkind hpresent

/-- A kind that does not aim at a creature does not look at its target. -/
theorem ActionKind.apply_of_creatureChange?_none {kind : ActionKind}
    (hkind : kind.creatureChange? = none) (target other : Target) (context : Context) :
    kind.apply target context = kind.apply other context := by
  cases kind with
  | healFixed | healPercentage | cureStatus | boostStat | evolve | teachMove => cases hkind
  | modifyCatchRate | consumeItem | showMessage | preventWildEncounters | unrecognized => rfl

/-! ### Failures -/

namespace ActionKind.Outcome

variable {kind : ActionKind} {target : Target} {context after : Context} {effort : Effort}

/-- What fails changes nothing. -/
theorem eq_of_failed (h : kind.Outcome target context effort after)
    (hfailed : effort.success = false) : after = context := by
  cases h with
  | failed => rfl
  | onCreature hpresent houtcome =>
      cases houtcome with
      | failed => exact Context.update_of_target? hpresent
      | healed _ | cured _ | boosted _ | evolved _ | learned _ | known => cases hfailed
  | catchRate | repelled | spent | said => cases hfailed

/-- What fails has nothing but a message to tell. -/
theorem effort_of_failed (h : kind.Outcome target context effort after)
    (hfailed : effort.success = false) : ∃ message, effort = .failed message := by
  cases h with
  | failed => exact ⟨_, rfl⟩
  | onCreature _ houtcome =>
      cases houtcome with
      | failed => exact ⟨_, rfl⟩
      | healed _ | cured _ | boosted _ | evolved _ | learned _ | known => cases hfailed
  | catchRate | repelled | spent | said => cases hfailed

end ActionKind.Outcome

/-! ### Faults -/

theorem Creature.eq_of_restore_error {creature later : Creature} {amount : UInt32} {fault : Fault}
    (h : creature.restore amount = .error fault later) : later = creature := by
  rcases creature.restore_cases amount with ⟨_, _, hrestore⟩ | hrestore | ⟨_, hrestore⟩
  · cases hrestore.symm.trans h
  · cases hrestore.symm.trans h
  · cases hrestore.symm.trans h
    rfl

/-- If the change leaves a creature alone on which it meets a fault, the context is left alone. -/
theorem Context.eq_of_onTarget_error {context after : Context} {target : Target}
    {change : Creature → Application Creature} {fault : Fault}
    (hchange : ∀ creature fault later, change creature = .error fault later → later = creature)
    (h : context.onTarget target change = .error fault after) : after = context := by
  unfold onTarget at h
  cases hpresent : context.target? target with
  | none =>
      simp only [hpresent] at h
      cases h
  | some creature =>
      simp only [hpresent] at h
      cases hresult : change creature with
      | ok effort later =>
          rw [hresult] at h
          cases h
      | error fault later =>
          rw [hresult] at h
          cases h
          rw [hchange creature fault later hresult]
          exact update_of_target? hpresent

/-- What meets a fault changes nothing. -/
theorem ActionKind.eq_of_apply_error {kind : ActionKind} {target : Target}
    {context after : Context} {fault : Fault} (h : kind.apply target context = .error fault after) :
    after = context := by
  cases kind with
  | healFixed amount =>
      exact Context.eq_of_onTarget_error (fun _ _ _ => Creature.eq_of_restore_error) h
  | healPercentage percent =>
      simp only [apply] at h
      split at h
      · exact Context.eq_of_onTarget_error (fun _ _ _ => Creature.eq_of_restore_error) h
      · cases h
        rfl
  | cureStatus | boostStat | evolve | teachMove =>
      refine Context.eq_of_onTarget_error (fun creature _ _ hdone => ?_) h
      cases hdone
  | modifyCatchRate multiplier =>
      simp only [apply] at h
      split at h
      · cases h
      · cases h
        rfl
  | consumeItem | showMessage | preventWildEncounters | unrecognized => cases h

end BattleItems
