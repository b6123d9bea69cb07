import BattleItems.Effect.Ledger
import BattleItems.Proofs.CatalogIssues

/-!
# BattleItems.Proofs.Lifecycles

Whether the state that a ledger reports agrees with the uses that it lets through.

An effect is *spent* once its limits on uses allow no further one. A spent effect is refused on
every turn and for good; of any other only the cooldown is asked
(`Ledger.refusal?_eq_of_not_isSpent`). The reported state asks for the limits too, but only behind
the first use. So the two agree wherever no effect can be spent without a use, which is everywhere
but at a maximum of zero, and the checks on catalogs let no such effect through.
-/

namespace BattleItems

/-- A refusal for a limit on uses, which no later turn lifts. -/
def Refusal.IsFinal : Refusal → Prop
  | alreadyUsed | limitReached _ => True
  | cooldown _ => False

namespace Ledger

/-- The limits on uses allow no further one. -/
def IsSpent (ledger : Ledger) (effect : Effect) : Prop :=
  (effect.restrictions.oncePerBattle = true ∧ (ledger.record effect.id).uses ≠ 0) ∨
    ∃ max, effect.restrictions.maxUses = some max ∧ max ≤ (ledger.record effect.id).uses

/-- The turns of the effect's cooldown that are left on a turn, if any. -/
def cooldownLeft? (ledger : Ledger) (effect : Effect) (turn : UInt32) : Option UInt32 := do
  let cooldown ← effect.restrictions.cooldown
  let last ← (ledger.record effect.id).lastTurn
  remainingCooldown? cooldown last turn

/-- On every turn the effect is refused for a limit on its uses. -/
def RefusesForGood (ledger : Ledger) (effect : Effect) : Prop :=
  ∀ turn, ∃ refusal, ledger.refusal? effect turn = some refusal ∧ refusal.IsFinal

/-- On no turn the effect is refused for anything but its cooldown. -/
def RefusesForCooldown (ledger : Ledger) (effect : Effect) : Prop :=
  ∀ turn refusal, ledger.refusal? effect turn = some refusal →
    ∃ remaining, refusal = .cooldown remaining

/-- The reported state of an effect tells how it is refused. -/
structure LifecycleAgrees (ledger : Ledger) (effect : Effect) : Prop where
  exhausted : ledger.lifecycle effect = .exhausted ↔ ledger.RefusesForGood effect
  unused : ledger.lifecycle effect = .unused → ledger.RefusesForCooldown effect
  used : ∀ uses, ledger.lifecycle effect = .used uses → ledger.RefusesForCooldown effect

variable {ledger : Ledger} {effect : Effect}

/-! ### Refusals -/

theorem exists_refusal?_of_isSpent (h : ledger.IsSpent effect) (turn : UInt32) :
    ∃ refusal, ledger.refusal? effect turn = some refusal ∧ refusal.IsFinal := by
  simp only [refusal?]
  by_cases honce :
      (effect.restrictions.oncePerBattle && decide (0 < (ledger.record effect.id).uses)) = true
  · rw [if_pos honce]
    exact ⟨.alreadyUsed, rfl, trivial⟩
  · rw [if_neg honce]
    rcases h with ⟨honly, hused⟩ | ⟨max, hmax, hreached⟩
    · have hpos := UInt32.pos_iff_ne_zero.mpr hused
      simp [honly, hpos] at honce
    · rw [hmax, Option.filter_some, if_pos (decide_eq_true hreached)]
      exact ⟨.limitReached max, rfl, trivial⟩

/-- An effect that is not spent waits for its cooldown at most. -/
theorem refusal?_eq_of_not_isSpent (h : ¬ledger.IsSpent effect) (turn : UInt32) :
    ledger.refusal? effect turn = (ledger.cooldownLeft? effect turn).map .cooldown := by
  rw [IsSpent, not_or, not_and, not_exists] at h
  obtain ⟨honce, hmax⟩ := h
  have hnotUsed : ¬(effect.restrictions.oncePerBattle &&
      decide (0 < (ledger.record effect.id).uses)) = true := by
    intro hused
    rw [Bool.and_eq_true, decide_eq_true_iff, UInt32.pos_iff_ne_zero] at hused
    exact honce hused.1 hused.2
  have hnotReached :
      effect.restrictions.maxUses.filter (· ≤ (ledger.record effect.id).uses) = none := by
    rw [Option.filter_eq_none_iff]
    intro max hmem hreached
    exact hmax max ⟨hmem, of_decide_eq_true hreached⟩
  simp only [refusal?, cooldownLeft?, if_neg hnotUsed, hnotReached]
  cases effect.restrictions.cooldown <;> cases (ledger.record effect.id).lastTurn <;> rfl

theorem eq_cooldown_of_not_isSpent {turn : UInt32} {refusal : Refusal}
    (h : ¬ledger.IsSpent effect) (hrefusal : ledger.refusal? effect turn = some refusal) :
    ∃ remaining, refusal = .cooldown remaining := by
  rw [refusal?_eq_of_not_isSpent h, Option.map_eq_some_iff] at hrefusal
  obtain ⟨remaining, -, rfl⟩ := hrefusal
  exact ⟨remaining, rfl⟩

theorem refusesForGood_iff : ledger.RefusesForGood effect ↔ ledger.IsSpent effect := by
  constructor
  · intro hrefuses
    by_contra hspent
    obtain ⟨refusal, hrefusal, hfinal⟩ := hrefuses 0
    obtain ⟨remaining, rfl⟩ := eq_cooldown_of_not_isSpent hspent hrefusal
    exact hfinal
  · intro hspent turn
    exact exists_refusal?_of_isSpent hspent turn

theorem refusesForCooldown_iff : ledger.RefusesForCooldown effect ↔ ¬ledger.IsSpent effect := by
  constructor
  · intro hrefuses hspent
    obtain ⟨refusal, hrefusal, hfinal⟩ := exists_refusal?_of_isSpent hspent 0
    obtain ⟨remaining, rfl⟩ := hrefuses 0 refusal hrefusal
    exact hfinal
  · intro hspent turn refusal hrefusal
    exact eq_cooldown_of_not_isSpent hspent hrefusal

/-! ### States -/

/-- Without a use, only a maximum of zero can be reached. -/
theorem isSpent_iff_of_unused (hunused : (ledger.record effect.id).uses = 0) :
    ledger.IsSpent effect ↔ effect.restrictions.maxUses = some 0 := by
  simp [IsSpent, hunused]

theorem lifecycle_eq_unused_iff :
    ledger.lifecycle effect = .unused ↔ (ledger.record effect.id).uses = 0 := by
  simp only [lifecycle]
  by_cases hunused : (ledger.record effect.id).uses = 0
  · exact iff_of_true (if_pos hunused) hunused
  · rw [if_neg hunused, iff_false_right hunused]
    split <;> exact nofun

/-- Behind the first use the state asks for the limits. -/
theorem lifecycle_of_used (hused : (ledger.record effect.id).uses ≠ 0) :
    (ledger.IsSpent effect ∧ ledger.lifecycle effect = .exhausted) ∨
      (¬ledger.IsSpent effect ∧
        ledger.lifecycle effect = .used (ledger.record effect.id).uses) := by
  have hlimits : (effect.restrictions.oncePerBattle ||
      effect.restrictions.maxUses.any (· ≤ (ledger.record effect.id).uses)) = true ↔
        ledger.IsSpent effect := by
    simp [IsSpent, hused, Option.any_eq_true]
  simp only [lifecycle, if_neg hused]
  by_cases hspent : ledger.IsSpent effect
  · exact Or.inl ⟨hspent, if_pos (hlimits.mpr hspent)⟩
  · exact Or.inr ⟨hspent, if_neg (mt hlimits.mp hspent)⟩

theorem lifecycle_eq_exhausted_iff :
    ledger.lifecycle effect = .exhausted ↔
      (ledger.record effect.id).uses ≠ 0 ∧ ledger.IsSpent effect := by
  by_cases hunused : (ledger.record effect.id).uses = 0
  · rw [lifecycle_eq_unused_iff.mpr hunused]
    simp [hunused]
  · rcases lifecycle_of_used hunused with ⟨hspent, hstate⟩ | ⟨hspent, hstate⟩ <;>
      simp [hunused, hspent, hstate]

theorem not_isSpent_of_lifecycle_eq_used {uses : UInt32}
    (hstate : ledger.lifecycle effect = .used uses) : ¬ledger.IsSpent effect := by
  have hused : (ledger.record effect.id).uses ≠ 0 := by
    intro hunused
    rw [lifecycle_eq_unused_iff.mpr hunused] at hstate
    cases hstate
  rcases lifecycle_of_used hused with ⟨-, hexhausted⟩ | ⟨hspent, -⟩
  · rw [hexhausted] at hstate
    cases hstate
  · exact hspent

/-- The state agrees with the gate unless the effect is spent before its first use. -/
theorem lifecycleAgrees_iff :
    ledger.LifecycleAgrees effect ↔
      ¬((ledger.record effect.id).uses = 0 ∧ ledger.IsSpent effect) := by
  constructor
  · rintro hagrees ⟨hunused, hspent⟩
    exact refusesForCooldown_iff.mp (hagrees.unused (lifecycle_eq_unused_iff.mpr hunused)) hspent
  · intro hnever
    refine ⟨?_, fun hstate => ?_, fun uses hstate => ?_⟩
    · rw [lifecycle_eq_exhausted_iff, refusesForGood_iff, and_iff_right_iff_imp]
      exact fun hspent hunused => hnever ⟨hunused, hspent⟩
    · rw [refusesForCooldown_iff]
      exact fun hspent => hnever ⟨lifecycle_eq_unused_iff.mp hstate, hspent⟩
    · exact refusesForCooldown_iff.mpr (not_isSpent_of_lifecycle_eq_used hstate)

/-- **The reported state agrees with the gate, but for a maximum of zero.** An effect is reported as
exhausted exactly if it is refused on every turn for a limit on its uses, and reported as unused or
used only if no turn refuses it for more than a cooldown. The one exception is an effect that may
never be used and never was: it is reported as unused and refused on every turn. A valid catalog
declares no such effect. -/
theorem lifecycle_agrees_but_for_zero_maximum (ledger : Ledger) (effect : Effect) :
    (ledger.LifecycleAgrees effect ↔
      ¬(effect.restrictions.maxUses = some 0 ∧ (ledger.record effect.id).uses = 0)) ∧
    (effect.restrictions.maxUses = some 0 → (ledger.record effect.id).uses = 0 →
      ledger.lifecycle effect = .unused ∧ ledger.RefusesForGood effect) ∧
    ∀ catalog : Catalog, catalog.issues = [] → catalog.Declares effect →
      ledger.LifecycleAgrees effect := by
  have hagrees : ledger.LifecycleAgrees effect ↔
      ¬(effect.restrictions.maxUses = some 0 ∧ (ledger.record effect.id).uses = 0) := by
    rw [lifecycleAgrees_iff, and_congr_right_iff.mpr isSpent_iff_of_unused, and_comm]
  refine ⟨hagrees, fun hmax hunused => ?_, fun catalog hvalid hdeclared => ?_⟩
  · exact ⟨lifecycle_eq_unused_iff.mpr hunused,
      refusesForGood_iff.mpr ((isSpent_iff_of_unused hunused).mpr hmax)⟩
  · obtain ⟨-, hmax, -⟩ := Effect.problems_eq_nil_iff.mp (hdeclared.problems_eq_nil hvalid)
    exact hagrees.mpr fun hzero => hmax hzero.1

/-- A charm of a valid catalog that works twice in a battle and was used on turns 3 and 5 is
exhausted, and it is refused. Its cursed copy, which may never be used, is refused as unused. -/
theorem lifecycle_agrees_but_for_zero_maximum_charm :
    let charm : Effect := {
      id := "charm", trigger := .onTurnEnd, actions := [{ kind := .healFixed 5 }],
      restrictions := { maxUses := some 2, cooldown := some 4 } }
    let cursed : Effect := { charm with id := "cursed", restrictions := { maxUses := some 0 } }
    let catalog : Catalog := ⟨[{ id := "charm", effects := [charm] }]⟩
    let ledger := (({} : Ledger).recordUse "charm" 3).recordUse "charm" 5
    catalog.issues = [] ∧ catalog.Declares charm ∧ ledger.lifecycle charm = .exhausted ∧
      ledger.RefusesForGood charm ∧ cursed.restrictions.maxUses = some 0 ∧
      (ledger.record cursed.id).uses = 0 ∧ ledger.lifecycle cursed = .unused ∧
      ledger.RefusesForGood cursed := by
  intro charm cursed catalog ledger
  have hvalid : catalog.issues = [] := by decide +kernel
  have hdeclared : catalog.Declares charm := ⟨_, List.mem_cons_self, List.mem_cons_self⟩
  have hstate : ledger.lifecycle charm = .exhausted := by decide +kernel
  have hunused : (ledger.record cursed.id).uses = 0 := by decide +kernel
  obtain ⟨-, -, hagrees⟩ := lifecycle_agrees_but_for_zero_maximum ledger charm
  obtain ⟨-, hexception, -⟩ := lifecycle_agrees_but_for_zero_maximum ledger cursed
  obtain ⟨hreported, hrefused⟩ := hexception rfl hunused
  exact ⟨hvalid, hdeclared, hstate, (hagrees catalog hvalid hdeclared).exhausted.mp hstate, rfl,
    hunused, hreported, hrefused⟩

/-- A charm with a maximum of zero is reported as unused before any use, and yet it is refused on
every turn because its maximum is reached. -/
theorem lifecycle_hides_zero_maximum :
    let charm : Effect := {
      id := "charm", trigger := .onUse, actions := [{ kind := .healFixed 5 }],
      restrictions := { maxUses := some 0 } }
    let ledger : Ledger := {}
    ledger.lifecycle charm = .unused ∧
      (∀ turn, ledger.refusal? charm turn = some (.limitReached 0)) ∧
      ¬(ledger.lifecycle charm = .exhausted ↔ ledger.RefusesForGood charm) ∧
      ¬(ledger.lifecycle charm = .unused → ledger.RefusesForCooldown charm) := by
  intro charm ledger
  have hstate : ledger.lifecycle charm = .unused := by decide +kernel
  have hrefusal : ∀ turn, ledger.refusal? charm turn = some (.limitReached 0) := fun turn => rfl
  refine ⟨hstate, hrefusal, fun hexhausted => ?_, fun hcooldown => ?_⟩
  · have hgood : ledger.RefusesForGood charm := fun turn => ⟨_, hrefusal turn, trivial⟩
    have hother := hexhausted.mpr hgood
    rw [hstate] at hother
    cases hother
  · obtain ⟨remaining, hremaining⟩ := hcooldown hstate 0 _ (hrefusal 0)
    cases hremaining

end Ledger

end BattleItems
