import BattleItems.Proofs.Heals
import BattleItems.Proofs.HpPercentages

/-!
# BattleItems.Proofs.HealConditions

Where conditions on the percentage of HP agree with heals.

A heal looks at the HP themselves: it succeeds where they are below the maximum, and it has nothing
to restore where they are at it. A catalog says the same in front of an effect by a percentage, which
has been rounded twice. At one hundred percent and at fifty the roundings do not show, so there the
condition is a question about the HP as well.
-/

namespace BattleItems

open Binary64

/-! ### Heals -/

/-- The kinds that restore HP: a fixed amount, or a percentage that is one. -/
def ActionKind.IsHeal : ActionKind → Prop
  | healFixed _ => True
  | healPercentage percent => percent.isNonNegative = true
  | _ => False

theorem ActionKind.IsHeal.restores {kind : ActionKind} (h : kind.IsHeal) (creature : Creature) :
    ∃ change amount, kind.creatureChange? = some change ∧
      change creature = creature.restore amount := by
  cases kind with
  | healFixed amount => exact ⟨_, amount, rfl, rfl⟩
  | healPercentage percent =>
      have hpercent : percent.isNonNegative = true := h
      exact ⟨_, creature.shareOfMaxHp percent, rfl, if_pos hpercent⟩
  | cureStatus | boostStat | evolve | teachMove | modifyCatchRate | consumeItem | showMessage
  | preventWildEncounters | unrecognized => exact h.elim

namespace Action

/-- A heal of the creature that the item is used on, without gates of its own. -/
structure IsUserHeal (action : Action) : Prop where
  heals : action.kind.IsHeal
  aims : action.target = .user
  ungated : action.IsUngated

namespace IsUserHeal

theorem target?_eq {heal : Action} (h : heal.IsUserHeal) (context : Context) :
    context.target? heal.target = some context.creature := by
  rw [h.aims]
  rfl

variable {σ : Type} [DrawSource σ] {heal : Action} {scene : Scene σ}

theorem execute_of_hurt (h : heal.IsUserHeal)
    (hhurt : scene.context.creature.hp < scene.context.creature.maxHp) :
    ∃ report after, heal.execute scene = .ok report after ∧ report.success = true := by
  obtain ⟨change, amount, hchange, hrestores⟩ := h.heals.restores scene.context.creature
  obtain ⟨healed, hrestore, -, -⟩ := Creature.restore_of_hurt hhurt amount
  have hrun := execute_of_creatureChange? hchange (h.ungated.gate_eq ..) (h.target?_eq _)
    (hrestores.trans hrestore)
  exact ⟨_, _, hrun, rfl⟩

theorem execute_of_full (h : heal.IsUserHeal)
    (hfull : scene.context.creature.hp = scene.context.creature.maxHp) :
    heal.execute scene =
      .ok (heal.report (.failed "Already at full HP") scene.context) scene := by
  obtain ⟨change, amount, hchange, hrestores⟩ := h.heals.restores scene.context.creature
  have hrun := execute_of_creatureChange? hchange (h.ungated.gate_eq ..) (h.target?_eq _)
    (hrestores.trans (Creature.restore_of_full hfull amount))
  rwa [Context.update_of_target? (h.target?_eq _)] at hrun

/-- A heal succeeds on hurt creatures, and on no others. -/
theorem succeeds_iff (h : heal.IsUserHeal)
    (hle : scene.context.creature.hp ≤ scene.context.creature.maxHp) :
    (∃ report after, heal.execute scene = .ok report after ∧ report.success = true) ↔
      scene.context.creature.hp < scene.context.creature.maxHp := by
  constructor
  · rintro ⟨report, after, hrun, hsuccess⟩
    rcases UInt32.lt_or_eq_of_le hle with hhurt | hfull
    · exact hhurt
    · obtain ⟨rfl, -⟩ := EStateM.Result.ok.inj (hrun.symm.trans (h.execute_of_full hfull))
      cases hsuccess
  · exact h.execute_of_hurt

/-- It finds nothing to restore at the maximum, and nowhere else. -/
theorem isFull_iff (h : heal.IsUserHeal)
    (hle : scene.context.creature.hp ≤ scene.context.creature.maxHp) :
    heal.execute scene =
        .ok (heal.report (.failed "Already at full HP") scene.context) scene ↔
      scene.context.creature.hp = scene.context.creature.maxHp := by
  constructor
  · intro hrun
    rcases UInt32.lt_or_eq_of_le hle with hhurt | hfull
    · obtain ⟨report, after, hother, hsuccess⟩ := h.execute_of_hurt hhurt
      obtain ⟨rfl, -⟩ := EStateM.Result.ok.inj (hother.symm.trans hrun)
      cases hsuccess
    · exact hfull
  · exact h.execute_of_full

end IsUserHeal

end Action

/-! ### Percentages that tell the HP -/

namespace Creature

variable {creature : Creature} (hmax : 0 < creature.maxHp) (hle : creature.hp ≤ creature.maxHp)
include hmax hle

theorem isUnits_hpPercentage :
    creature.hpPercentage.IsUnits (percentUnits creature.hp.toNat creature.maxHp.toNat) :=
  isUnits_percentage hmax hle (Nat.le_trans (Nat.le_of_lt creature.maxHp.toNat_lt) (by decide))

theorem admits_less_hundred_iff :
    (Comparison.less 100).admits creature.hpPercentage = true ↔ creature.hp < creature.maxHp := by
  have hpos : 0 < creature.maxHp.toNat := hmax
  have hexact : 100 ∉ understatedPercents := by decide
  rw [Comparison.admits, (isUnits_hpPercentage hmax hle).less_iff isUnits_hundred, ← Nat.not_le,
    le_percentUnits_iff creature.hp.toNat hpos creature.maxHp.toNat_lt (Nat.le_refl 100),
    UInt32.lt_iff_toNat_lt]
  rw [UInt32.le_iff_toNat_le] at hle
  simp only [hexact, not_false_eq_true, and_true]
  omega

theorem admits_equals_hundred_iff :
    (Comparison.equals 100).admits creature.hpPercentage = true ↔
      creature.hp = creature.maxHp := by
  have hpos : 0 < creature.maxHp.toNat := hmax
  have hover : 100 ∉ overstatedPercents := by decide
  have hunder : 100 ∉ understatedPercents := by decide
  rw [Comparison.admits, (isUnits_hpPercentage hmax hle).equals_iff isUnits_hundred,
    percentUnits_eq_iff creature.hp.toNat hpos creature.maxHp.toNat_lt (Nat.le_refl 100),
    ← UInt32.toNat_inj]
  simp only [hover, hunder, not_false_eq_true, and_true]
  omega

theorem admits_lessEqual_fifty_iff :
    (Comparison.lessEqual 50).admits creature.hpPercentage = true ↔
      2 * creature.hp.toNat ≤ creature.maxHp.toNat := by
  have hpos : 0 < creature.maxHp.toNat := hmax
  have hunits : (ofNat 50).IsUnits (50 * one) := isUnits_ofNat (by decide)
  have hfifty : (50 : Binary64).IsUnits (50 * one) := hunits
  have hover : 50 ∉ overstatedPercents := by decide
  rw [Comparison.admits, (isUnits_hpPercentage hmax hle).lessEq_iff hfifty,
    percentUnits_le_iff creature.hp.toNat hpos creature.maxHp.toNat_lt (by decide)]
  simp only [hover, not_false_eq_true, and_true]
  omega

end Creature

namespace Condition

variable {σ : Type} [DrawSource σ]

/-- The condition on the percentage of HP, and on nothing else. -/
def onHpPercentage (comparison : Comparison) : Condition := { kind := .hpPercentage comparison }

/-- The condition lets a scene through, and draws nothing for it. -/
def Passes (condition : Condition) (scene : Scene σ) : Prop :=
  condition.check scene.context scene.source = .ok .passed scene.source

theorem passes_onHpPercentage_iff {scene : Scene σ} (hmax : 0 < scene.context.creature.maxHp)
    (comparison : Comparison) :
    (onHpPercentage comparison).Passes scene ↔
      comparison.admits scene.context.creature.hpPercentage = true :=
  check_hpPercentage_eq_passed_iff hmax comparison scene.source

/-- **The condition on a hurt creature agrees with the heals behind it.** A percentage below one
hundred lets through exactly the creatures that a heal restores, a percentage of one hundred those
that it finds at their maximum, and fifty percent at most those with half of the maximum at most. -/
theorem hurt_condition_agrees_with_heals (scene : Scene σ)
    (hmax : 0 < scene.context.creature.maxHp)
    (hle : scene.context.creature.hp ≤ scene.context.creature.maxHp) :
    (∀ heal : Action, heal.IsUserHeal →
      ((onHpPercentage (.less 100)).Passes scene ↔
        ∃ report after, heal.execute scene = .ok report after ∧ report.success = true) ∧
      ((onHpPercentage (.equals 100)).Passes scene ↔
        heal.execute scene =
          .ok (heal.report (.failed "Already at full HP") scene.context) scene)) ∧
    ((onHpPercentage (.lessEqual 50)).Passes scene ↔
      2 * scene.context.creature.hp.toNat ≤ scene.context.creature.maxHp.toNat) := by
  refine ⟨fun heal hheal => ⟨?_, ?_⟩, ?_⟩
  · exact (passes_onHpPercentage_iff hmax _).trans
      ((Creature.admits_less_hundred_iff hmax hle).trans (hheal.succeeds_iff hle).symm)
  · exact (passes_onHpPercentage_iff hmax _).trans
      ((Creature.admits_equals_hundred_iff hmax hle).trans (hheal.isFull_iff hle).symm)
  · exact (passes_onHpPercentage_iff hmax _).trans (Creature.admits_lessEqual_fifty_iff hmax hle)

/-- A giant that lacks a single HP is not taken to be at its maximum, by neither of them. -/
theorem hurt_condition_agrees_with_heals_giant :
    let creature : Creature := { species := "eevee", hp := 4294967294, maxHp := 4294967295 }
    let scene : Scene Recorded := ⟨{ creature }, { words := [] }⟩
    let potion : Action := { kind := .healFixed 20 }
    0 < creature.maxHp ∧ creature.hp ≤ creature.maxHp ∧ potion.IsUserHeal ∧
      (onHpPercentage (.less 100)).Passes scene ∧ ¬ (onHpPercentage (.equals 100)).Passes scene ∧
      ¬ (onHpPercentage (.lessEqual 50)).Passes scene ∧
      ∃ report after, potion.execute scene = .ok report after ∧ report.success = true := by
  intro creature scene potion
  have hmax : 0 < creature.maxHp := by decide
  have hle : creature.hp ≤ creature.maxHp := by decide
  have hpotion : potion.IsUserHeal := ⟨trivial, rfl, rfl, rfl⟩
  obtain ⟨hheals, hhalf⟩ := hurt_condition_agrees_with_heals scene hmax hle
  obtain ⟨hhurt, hfull⟩ := hheals potion hpotion
  have hhurtCreature : scene.context.creature.hp < scene.context.creature.maxHp := by decide
  have hrun := hpotion.execute_of_hurt hhurtCreature
  refine ⟨hmax, hle, hpotion, hhurt.mpr hrun, ?_, ?_, hrun⟩
  · intro hpassed
    exact absurd ((hpotion.isFull_iff hle).mp (hfull.mp hpassed)) (by decide)
  · intro hpassed
    exact absurd (hhalf.mp hpassed) (by decide)

end Condition

end BattleItems
