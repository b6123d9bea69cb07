import BattleItems.Proofs.Lifecycles

/-!
# BattleItems.Proofs.Cooldowns

How a cooldown counts down.

The turns that are left come out of two differences of words, and neither of them is ever below zero
(`Ledger.checkedCooldown?_eq`). So they are the turns up to the *release*, the turn of the last use
and the cooldown added up as natural numbers. The release need not be a word: a cooldown that is
started late enough outlasts every turn that can be counted. An effect that is not spent is refused
for its cooldown alone, and so the refusals of the ledger count down to the release as the cooldown
does (`Ledger.CoolsFrom.exists_refusal?`, `Ledger.CoolsFrom.refusal?_eq_none_iff`).
-/

namespace BattleItems

namespace Ledger

/-! ### Differences of words -/

/-- The difference of two words, if it is not below zero. -/
def difference? (a b : UInt32) : Option UInt32 := if b ≤ a then some (a - b) else none

/-- The turns of a cooldown that are left `turn`, if any, by differences that are not below zero.
Where one would be, there is no result at all. -/
def checkedCooldown? (cooldown lastTurn turn : UInt32) : Option (Option UInt32) :=
  (if lastTurn ≤ turn then difference? turn lastTurn else some 0).bind fun elapsed =>
    if elapsed < cooldown then (difference? cooldown elapsed).map some else some none

theorem difference?_of_le {a b : UInt32} (h : b ≤ a) : difference? a b = some (a - b) := if_pos h

/-- Counting the turns that are left never goes below zero. -/
theorem checkedCooldown?_eq (cooldown lastTurn turn : UInt32) :
    checkedCooldown? cooldown lastTurn turn =
      some (remainingCooldown? cooldown lastTurn turn) := by
  have helapsed : (if lastTurn ≤ turn then difference? turn lastTurn else some 0) =
      some (if lastTurn ≤ turn then turn - lastTurn else 0) := by
    by_cases hle : lastTurn ≤ turn
    · rw [if_pos hle, if_pos hle, difference?_of_le hle]
    · rw [if_neg hle, if_neg hle]
  simp only [checkedCooldown?, remainingCooldown?, helapsed, Option.bind_some]
  by_cases hlt : (if lastTurn ≤ turn then turn - lastTurn else 0) < cooldown
  · rw [if_pos hlt, if_pos hlt, difference?_of_le (UInt32.le_of_lt hlt), Option.map_some]
  · rw [if_neg hlt, if_neg hlt]

/-! ### Refusals -/

/-- The effect has a cooldown and was last used on a turn, and its limits allow another use. -/
structure CoolsFrom (ledger : Ledger) (effect : Effect) (cooldown last : UInt32) : Prop where
  cooldown : effect.restrictions.cooldown = some cooldown
  lastTurn : (ledger.record effect.id).lastTurn = some last
  not_isSpent : ¬ledger.IsSpent effect

/-- From a turn on, the effect is refused on as many turns as remain, with one less on each of them,
and on none behind them. -/
structure CountsDown (ledger : Ledger) (effect : Effect) (turn remaining : UInt32) : Prop where
  refused : ∀ k < remaining.toNat, ∀ later : UInt32, later.toNat = turn.toNat + k →
    ∃ left, ledger.refusal? effect later = some (.cooldown left) ∧
      left.toNat + k = remaining.toNat
  released : ∀ later : UInt32, turn.toNat + remaining.toNat ≤ later.toNat →
    ledger.refusal? effect later = none

namespace CoolsFrom

variable {ledger : Ledger} {effect : Effect} {cooldown last turn : UInt32}

theorem refusal?_eq (h : ledger.CoolsFrom effect cooldown last) (turn : UInt32) :
    ledger.refusal? effect turn = (remainingCooldown? cooldown last turn).map .cooldown := by
  rw [refusal?_eq_of_not_isSpent h.not_isSpent, cooldownLeft?, h.cooldown, h.lastTurn]
  rfl

/-- From the last use on, the turns that are let through are those from the release on. -/
theorem refusal?_eq_none_iff (h : ledger.CoolsFrom effect cooldown last)
    (hle : last.toNat ≤ turn.toNat) :
    ledger.refusal? effect turn = none ↔ last.toNat + cooldown.toNat ≤ turn.toNat := by
  rw [h.refusal?_eq, Option.map_eq_none_iff, remainingCooldown?_eq_none_iff]
  omega

/-- Before the release, a refusal tells the turns up to it. -/
theorem exists_refusal? (h : ledger.CoolsFrom effect cooldown last)
    (hle : last.toNat ≤ turn.toNat) (hlt : turn.toNat < last.toNat + cooldown.toNat) :
    ∃ left, ledger.refusal? effect turn = some (.cooldown left) ∧
      turn.toNat + left.toNat = last.toNat + cooldown.toNat := by
  have hwaits : remainingCooldown? cooldown last turn ≠ none := by
    rw [ne_eq, remainingCooldown?_eq_none_iff]
    omega
  obtain ⟨left, hleft⟩ := Option.ne_none_iff_exists'.mp hwaits
  refine ⟨left, by rw [h.refusal?_eq, hleft, Option.map_some], ?_⟩
  rw [remainingCooldown?_eq_some_iff] at hleft
  omega

/-- Every refusal before the release starts a countdown to it. -/
theorem countsDown (h : ledger.CoolsFrom effect cooldown last) (hle : last.toNat ≤ turn.toNat)
    {remaining : UInt32} (hrelease : turn.toNat + remaining.toNat = last.toNat + cooldown.toNat) :
    ledger.CountsDown effect turn remaining where
  refused k hk later hlater := by
    have hbehind : last.toNat ≤ later.toNat := by omega
    obtain ⟨left, hrefusal, hleft⟩ := h.exists_refusal? hbehind (by omega)
    exact ⟨left, hrefusal, by omega⟩
  released later hlater := by
    rw [h.refusal?_eq_none_iff (by omega)]
    omega

end CoolsFrom

/-- **A cooldown counts down turn by turn.** An effect that is not spent is refused, from its last
use on, on exactly the turns before that turn and the cooldown added up. A refusal tells how many of
them are left, at least the one that it is made on; on each of these turns the effect is refused
with one turn less, and from then on it is let through. Whatever the words, no difference that is
taken is below zero. -/
theorem cooldown_counts_down (ledger : Ledger) (effect : Effect) :
    (∀ cooldown last turn : UInt32, ledger.CoolsFrom effect cooldown last → last ≤ turn →
      (ledger.refusal? effect turn ≠ none ↔ turn.toNat < last.toNat + cooldown.toNat) ∧
      ∀ refusal, ledger.refusal? effect turn = some refusal →
        ∃ remaining, refusal = .cooldown remaining ∧ 1 ≤ remaining.toNat ∧
          remaining.toNat = last.toNat + cooldown.toNat - turn.toNat ∧
          ledger.CountsDown effect turn remaining) ∧
    ∀ cooldown last turn : UInt32,
      checkedCooldown? cooldown last turn = some (remainingCooldown? cooldown last turn) := by
  refine ⟨fun cooldown last turn hcools hle => ?_, checkedCooldown?_eq⟩
  rw [UInt32.le_iff_toNat_le] at hle
  have hrefused : ledger.refusal? effect turn ≠ none ↔
      turn.toNat < last.toNat + cooldown.toNat := by
    rw [ne_eq, hcools.refusal?_eq_none_iff hle, Nat.not_le]
  refine ⟨hrefused, fun refusal hrefusal => ?_⟩
  have hlt := hrefused.mp (Option.ne_none_iff_exists'.mpr ⟨refusal, hrefusal⟩)
  obtain ⟨remaining, hcooldown, hrelease⟩ := hcools.exists_refusal? hle hlt
  refine ⟨remaining, ?_, by omega, by omega, hcools.countsDown hle hrelease⟩
  exact Option.some.inj (hrefusal.symm.trans hcooldown)

/-- A charm that was used on turn 4 and needs three turns waits on turns 5 and 6 and works from turn
7 on. Used five turns before the last one there is, with a cooldown of ten, it waits for ever. -/
theorem cooldown_counts_down_charm :
    let charm : Effect := {
      id := "charm", trigger := .onTurnEnd, actions := [{ kind := .healFixed 5 }],
      restrictions := { maxUses := some 9, cooldown := some 3 } }
    let slow : Effect := { charm with restrictions := { cooldown := some 10 } }
    let ledger := ({} : Ledger).recordUse "charm" 4
    let late := ({} : Ledger).recordUse "charm" 4294967290
    ledger.CoolsFrom charm 3 4 ∧ ledger.refusal? charm 5 = some (.cooldown 2) ∧
      (∃ left, ledger.refusal? charm 6 = some (.cooldown left) ∧ left.toNat + 1 = 2) ∧
      (∀ later : UInt32, 7 ≤ later.toNat → ledger.refusal? charm later = none) ∧
      late.CoolsFrom slow 10 4294967290 ∧ late.refusal? slow 4294967295 = some (.cooldown 5) ∧
      ∀ turn : UInt32, 4294967290 ≤ turn → late.refusal? slow turn ≠ none := by
  intro charm slow ledger late
  have hcharm : ledger.CoolsFrom charm 3 4 := by
    refine ⟨rfl, by decide +kernel, ?_⟩
    rintro (⟨honce, -⟩ | ⟨max, hmax, hreached⟩)
    · cases honce
    · cases hmax
      revert hreached
      decide +kernel
  have hslow : late.CoolsFrom slow 10 4294967290 := by
    refine ⟨rfl, by decide +kernel, ?_⟩
    rintro (⟨honce, -⟩ | ⟨max, hmax, -⟩)
    · cases honce
    · cases hmax
  have hfive : ledger.refusal? charm 5 = some (.cooldown 2) := by decide +kernel
  obtain ⟨hcount, -⟩ := cooldown_counts_down ledger charm
  obtain ⟨-, hleft⟩ := hcount 3 4 5 hcharm (by decide)
  obtain ⟨remaining, heq, -, -, hdown⟩ := hleft _ hfive
  obtain rfl : 2 = remaining := Refusal.cooldown.inj heq
  obtain ⟨hlate, -⟩ := cooldown_counts_down late slow
  refine ⟨hcharm, hfive, hdown.refused 1 (by decide) 6 rfl, hdown.released, hslow,
    by decide +kernel, fun turn hturn => ?_⟩
  obtain ⟨hrefused, -⟩ := hlate 10 4294967290 turn hslow hturn
  rw [hrefused]
  have hword := turn.toNat_lt
  simp only [UInt32.reduceToNat]
  omega

end Ledger

end BattleItems
