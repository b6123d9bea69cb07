import Mathlib.Data.Nat.ModEq
import BattleItems.Proofs.PcgOutput

/-!
# BattleItems.Proofs.DerivedSeeds

Seeds of different calls are different.

A seed is mixed in two stages. First the battle's seed, the turn and the slot are put on top of each
other, the two numbers spread over the whole word by a factor each; then the sum is scrambled
(`deriveSeed_eq`). Every step can be undone: an odd factor has an inverse modulo `2⁶⁴`, and folding
a word onto its lower half undoes itself. So two seeds collide only if the sums do
(`deriveSeed_eq_iff`), and these tell apart what is put in while the rest stays.
-/

namespace BattleItems

open Function

/-! ### The stages -/

/-- The share of a turn or a slot in a seed. -/
def seedShare (factor : UInt64) (number : UInt32) : UInt64 := number.toUInt64 * factor

/-- The first stage of mixing. -/
def seedSum (battleSeed : UInt64) (turn slot : UInt32) : UInt64 :=
  battleSeed ^^^ seedShare 0x9e3779b97f4a7c15 turn ^^^ seedShare 0x517cc1b727220a95 slot

/-- A word folded onto its lower half. -/
def foldHalf (word : UInt64) : UInt64 := word ^^^ (word >>> 33)

/-- The second stage of mixing. -/
def scramble (word : UInt64) : UInt64 := foldHalf (foldHalf word * 0xff51afd7ed558ccd)

theorem deriveSeed_eq (battleSeed : UInt64) (turn slot : UInt32) :
    deriveSeed battleSeed turn slot = scramble (seedSum battleSeed turn slot) := rfl

/-! ### Every step can be undone -/

/-- Modulo a power of two, odd factors can be cancelled. -/
theorem mul_right_injective_of_odd {factor : UInt64} (hodd : Nat.Coprime 2 factor.toNat) :
    Injective fun word : UInt64 => word * factor := by
  intro word other (heq : word * factor = other * factor)
  have hproducts : word.toNat * factor.toNat ≡ other.toNat * factor.toNat [MOD 2 ^ 64] := by
    rw [Nat.ModEq, ← UInt64.toNat_mul, ← UInt64.toNat_mul, heq]
  have hwords : word.toNat ≡ other.toNat [MOD 2 ^ 64] :=
    hproducts.cancel_right_of_coprime (hodd.pow_left 64)
  exact UInt64.toNat_inj.mp (hwords.eq_of_lt_of_lt word.toNat_lt other.toNat_lt)

theorem seedShare_injective {factor : UInt64} (hodd : Nat.Coprime 2 factor.toNat) :
    Injective (seedShare factor) := by
  intro number other heq
  exact UInt32.toUInt64_inj.mp (mul_right_injective_of_odd hodd heq)

theorem foldHalf_injective : Injective foldHalf := by
  intro word other heq
  have hfold : Involutive fun bits : BitVec 64 => bits ^^^ bits >>> 33 :=
    xorShiftRight_involutive (by decide)
  exact UInt64.toBitVec_inj.mp (hfold.injective (congrArg UInt64.toBitVec heq))

theorem scramble_injective : Injective scramble :=
  foldHalf_injective.comp ((mul_right_injective_of_odd (by decide)).comp foldHalf_injective)

/-- Seeds collide exactly where the sums of the first stage do. -/
theorem deriveSeed_eq_iff {battleSeed otherSeed : UInt64}
    {turn otherTurn slot otherSlot : UInt32} :
    deriveSeed battleSeed turn slot = deriveSeed otherSeed otherTurn otherSlot ↔
      seedSum battleSeed turn slot = seedSum otherSeed otherTurn otherSlot := by
  rw [deriveSeed_eq, deriveSeed_eq, scramble_injective.eq_iff]

/-! ### One argument at a time -/

theorem deriveSeed_slot_injective (battleSeed : UInt64) (turn : UInt32) :
    Injective fun slot => deriveSeed battleSeed turn slot := by
  intro slot other heq
  have hshares := (UInt64.xor_right_inj _).mp (deriveSeed_eq_iff.mp heq)
  exact seedShare_injective (by decide) hshares

theorem deriveSeed_turn_injective (battleSeed : UInt64) (slot : UInt32) :
    Injective fun turn => deriveSeed battleSeed turn slot := by
  intro turn other heq
  have hsums := (UInt64.xor_left_inj _).mp (deriveSeed_eq_iff.mp heq)
  have hshares := (UInt64.xor_right_inj _).mp hsums
  exact seedShare_injective (by decide) hshares

theorem deriveSeed_battleSeed_injective (turn slot : UInt32) :
    Injective fun battleSeed => deriveSeed battleSeed turn slot := by
  intro battleSeed other heq
  have hsums := (UInt64.xor_left_inj _).mp (deriveSeed_eq_iff.mp heq)
  exact (UInt64.xor_left_inj _).mp hsums

/-- **Derived seeds do not collide within a turn or a slot.** In one battle the slots of a turn have
different seeds, and so have the turns of a slot. In one turn and slot, different battles have
different seeds, and each of the `2⁶⁴` seeds belongs to one of them. -/
theorem derived_seeds_distinct :
    (∀ (battleSeed : UInt64) (turn : UInt32),
        Injective fun slot : UInt32 => deriveSeed battleSeed turn slot) ∧
      (∀ (battleSeed : UInt64) (slot : UInt32),
        Injective fun turn : UInt32 => deriveSeed battleSeed turn slot) ∧
      ∀ turn slot : UInt32, Bijective fun battleSeed : UInt64 => deriveSeed battleSeed turn slot :=
  ⟨deriveSeed_slot_injective, deriveSeed_turn_injective, fun turn slot =>
    (deriveSeed_battleSeed_injective turn slot).bijective_of_finite⟩

end BattleItems
