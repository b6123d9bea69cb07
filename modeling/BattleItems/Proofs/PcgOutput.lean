import Mathlib.Data.FinEnum
import Mathlib.Data.Set.Card
import BattleItems.Random.Pcg

/-!
# BattleItems.Proofs.PcgOutput

Every word is drawn from equally many states.

The upper five bits of a state say how far the output is rotated, and the lowest bits do not reach
it. What is left are 32 bits, and as long as the others stay, the output permutes them: it folds them
onto themselves, flips some of them and rotates the result (`Pcg.output_assemble`).
-/

namespace BattleItems

open Function

/-! ### Permutations of words -/

section Words

variable {width : ℕ}

/-- Folding a word onto its lower half undoes itself. -/
theorem xorShiftRight_involutive {places : ℕ} (h : width ≤ 2 * places) :
    Involutive fun word : BitVec width => word ^^^ word >>> places := by
  intro word
  have hgone : word >>> (places + places) = BitVec.ofNat width 0 :=
    BitVec.ushiftRight_eq_zero (by omega)
  change (word ^^^ word >>> places) ^^^ (word ^^^ word >>> places) >>> places = word
  rw [BitVec.ushiftRight_xor_distrib, ← BitVec.shiftRight_add, hgone, BitVec.xor_zero,
    BitVec.xor_assoc, BitVec.xor_self, BitVec.xor_zero]

theorem rotateLeft_leftInverse (places : ℕ) :
    LeftInverse (fun word : BitVec width => word.rotateLeft places)
      (fun word => word.rotateRight places) := by
  intro word
  apply BitVec.eq_of_getElem_eq
  intro i hi
  have hplaces : places % width < width := Nat.mod_lt _ (by omega)
  rw [BitVec.getElem_rotateLeft]
  split
  case isTrue hwrapped =>
    have hupper : ¬ width - places % width + i < width - places % width := by omega
    rw [BitVec.getElem_rotateRight, dif_neg hupper]
    simp only [Nat.add_sub_cancel_left]
  case isFalse hstraight =>
    have hlower : i - places % width < width - places % width := by omega
    rw [BitVec.getElem_rotateRight, dif_pos hlower]
    simp only [Nat.add_sub_cancel' (Nat.le_of_not_lt hstraight)]

theorem append_inj {width' : ℕ} {upper upper' : BitVec width} {lower lower' : BitVec width'}
    (h : upper ++ lower = upper' ++ lower') : upper = upper' ∧ lower = lower' := by
  constructor
  · simpa only [BitVec.extractLsb'_append_eq_left] using congrArg (BitVec.extractLsb' width' width) h
  · simpa only [BitVec.extractLsb'_append_eq_right] using congrArg (BitVec.extractLsb' 0 width') h

theorem natCard_bitVec : Nat.card (BitVec width) = 2 ^ width := by
  rw [Nat.card_eq_fintype_card, ← FinEnum.card_eq_fintypeCard, FinEnum.card_bitVec]

end Words

namespace Pcg

/-! ### The parts of a state -/

/-- The state made of its upper five bits, the next 32 and the lowest 27. -/
def assemble (top : BitVec 5) (middle : UInt32) (low : BitVec 27) : UInt64 :=
  ⟨top ++ middle.toBitVec ++ low⟩

theorem exists_assemble_eq (state : UInt64) :
    ∃ top middle low, assemble top middle low = state := by
  refine ⟨state.toBitVec.extractLsb' 59 5, ⟨state.toBitVec.extractLsb' 27 32⟩,
    state.toBitVec.extractLsb' 0 27, UInt64.toBitVec_inj.mp ?_⟩
  have hupper : state.toBitVec.extractLsb' 59 5 ++ state.toBitVec.extractLsb' 27 32 =
      state.toBitVec.extractLsb' 27 37 := BitVec.extractLsb'_append_extractLsb'_eq_extractLsb' rfl
  have hwhole : state.toBitVec.extractLsb' 27 37 ++ state.toBitVec.extractLsb' 0 27 =
      state.toBitVec := BitVec.extractLsb'_append_extractLsb'
  exact (congrArg (· ++ state.toBitVec.extractLsb' 0 27) hupper).trans hwhole

theorem assemble_inj {top top' : BitVec 5} {middle middle' : UInt32} {low low' : BitVec 27} :
    assemble top middle low = assemble top' middle' low' ↔
      top = top' ∧ middle = middle' ∧ low = low' := by
  constructor
  · intro heq
    have hbits : top ++ middle.toBitVec ++ low = top' ++ middle'.toBitVec ++ low' :=
      congrArg UInt64.toBitVec heq
    obtain ⟨hupper, hlow⟩ := append_inj hbits
    obtain ⟨htop, hmiddle⟩ := append_inj hupper
    exact ⟨htop, UInt32.toBitVec_inj.mp hmiddle, hlow⟩
  · rintro ⟨rfl, rfl, rfl⟩
    rfl

section Parts

variable (top : BitVec 5) (middle : UInt32) (low : BitVec 27)

theorem getLsbD_assemble (i : ℕ) :
    (assemble top middle low).toBitVec.getLsbD i =
      if i < 27 then low.getLsbD i
      else if i < 59 then middle.toBitVec.getLsbD (i - 27) else top.getLsbD (i - 59) := by
  have hmiddle : i - 27 < 32 ↔ i < 59 := by omega
  rw [assemble, BitVec.getLsbD_append, BitVec.getLsbD_append, Nat.sub_sub]
  simp only [hmiddle]

/-! ### The output in terms of the parts -/

theorem shiftRight_assemble : (assemble top middle low >>> 59).toNat = top.toNat := by
  have hbits : (assemble top middle low).toBitVec >>> 59 = top.setWidth 64 := by
    apply BitVec.eq_of_getLsbD_eq
    intro i hi
    rw [BitVec.getLsbD_ushiftRight, getLsbD_assemble, BitVec.getLsbD_setWidth, if_neg (by omega),
      if_neg (by omega), Nat.add_sub_cancel_left, decide_eq_true hi, Bool.true_and]
  have hfits : top.toNat < 2 ^ 64 := Nat.lt_trans top.isLt (by decide)
  exact (congrArg BitVec.toNat hbits).trans
    ((BitVec.toNat_setWidth 64 top).trans (Nat.mod_eq_of_lt hfits))

/-- The bits that the output shifts onto the middle: its own upper ones, and above them the top. -/
theorem getLsbD_assemble_folded (i : ℕ) :
    (assemble top middle low).toBitVec.getLsbD (45 + i) =
      (middle.toBitVec.getLsbD (18 + i) ^^ (!decide (i < 14) && top.getLsbD (i - 14))) := by
  rw [getLsbD_assemble, if_neg (by omega)]
  by_cases hi : i < 14
  · rw [if_pos (by omega), decide_eq_true hi, Bool.not_true, Bool.false_and, Bool.xor_false,
      show 45 + i - 27 = 18 + i by omega]
  · rw [if_neg (by omega), BitVec.getLsbD_of_ge middle.toBitVec (18 + i) (by omega),
      decide_eq_false hi, Bool.not_false, Bool.true_and, Bool.false_xor,
      show 45 + i - 59 = i - 14 by omega]

theorem fold_assemble :
    (((assemble top middle low >>> 18) ^^^ assemble top middle low) >>> 27).toUInt32.toBitVec =
      (middle.toBitVec ^^^ middle.toBitVec >>> 18) ^^^ top.setWidth 32 <<< 14 := by
  apply BitVec.eq_of_getLsbD_eq
  intro i hi
  have hfold : (((assemble top middle low >>> 18) ^^^ assemble top middle low) >>>
      27).toUInt32.toBitVec = (((assemble top middle low).toBitVec >>> 18 ^^^
        (assemble top middle low).toBitVec) >>> 27).setWidth 32 := rfl
  have hstraight : (assemble top middle low).toBitVec.getLsbD (27 + i) =
      middle.toBitVec.getLsbD i := by
    rw [getLsbD_assemble, if_neg (by omega), if_pos (by omega), Nat.add_sub_cancel_left]
  have hwide : i - 14 < 32 := by omega
  -- Bit `i` meets the bits `27 + i` and `45 + i` of the state.
  rw [hfold, BitVec.getLsbD_setWidth, BitVec.getLsbD_ushiftRight, BitVec.getLsbD_xor,
    BitVec.getLsbD_ushiftRight, ← Nat.add_assoc, hstraight, getLsbD_assemble_folded]
  rw [BitVec.getLsbD_xor, BitVec.getLsbD_xor, BitVec.getLsbD_ushiftRight,
    BitVec.getLsbD_shiftLeft, BitVec.getLsbD_setWidth]
  simp only [hi, hwide, decide_true, Bool.true_and]
  rw [Bool.xor_right_comm, Bool.xor_comm (middle.toBitVec.getLsbD (18 + i))]

/-- What the output makes of the parts. The lowest bits are shifted out. -/
theorem output_assemble :
    (output (assemble top middle low)).toBitVec =
      ((middle.toBitVec ^^^ middle.toBitVec >>> 18) ^^^ top.setWidth 32 <<< 14).rotateRight
        top.toNat := by
  rw [output, rotateRight, shiftRight_assemble, fold_assemble]

end Parts

/-! ### How often a word is drawn -/

/-- While the other parts stay, the output permutes the middle: each of its steps can be undone. -/
theorem output_assemble_bijective (top : BitVec 5) (low : BitVec 27) :
    Bijective fun middle : UInt32 => output (assemble top middle low) := by
  have hinj : Injective fun middle : UInt32 => output (assemble top middle low) := by
    intro middle other heq
    have hrotated := congrArg UInt32.toBitVec heq
    rw [output_assemble, output_assemble] at hrotated
    have hflipped := (rotateLeft_leftInverse top.toNat).injective hrotated
    have hfolded := (BitVec.xor_left_inj _).mp hflipped
    exact UInt32.toBitVec_inj.mp ((xorShiftRight_involutive (by decide)).injective hfolded)
  exact hinj.bijective_of_finite

/-- Each choice of the other parts leaves one state for a word. -/
theorem ncard_output_eq (word : UInt32) : {state : UInt64 | output state = word}.ncard = 2 ^ 32 := by
  choose middle hmiddle using fun top low => (output_assemble_bijective top low).surjective word
  have hstates : {state : UInt64 | output state = word} =
      Set.range fun rest : BitVec 5 × BitVec 27 =>
        assemble rest.1 (middle rest.1 rest.2) rest.2 := by
    ext state
    constructor
    · intro hword
      obtain ⟨top, own, low, rfl⟩ := exists_assemble_eq state
      have hown := (output_assemble_bijective top low).injective ((hmiddle top low).trans hword.symm)
      exact ⟨(top, low), congrArg (assemble top · low) hown⟩
    · rintro ⟨rest, rfl⟩
      exact hmiddle rest.1 rest.2
  have hinj : Injective fun rest : BitVec 5 × BitVec 27 =>
      assemble rest.1 (middle rest.1 rest.2) rest.2 := by
    intro rest other heq
    obtain ⟨htop, -, hlow⟩ := assemble_inj.mp heq
    exact Prod.ext htop hlow
  rw [hstates, ← Nat.card_coe_set_eq, Nat.card_range_of_injective hinj, Nat.card_prod,
    natCard_bitVec, natCard_bitVec, ← pow_add]

/-- **The output is balanced.** Every word is the output of `2³²` states, and as long as the upper
five bits of the state and the lowest 27 stay as they are, of exactly one. -/
theorem output_balanced :
    (∀ word : UInt32, {state : UInt64 | output state = word}.ncard = 2 ^ 32) ∧
      ∀ (top : BitVec 5) (low : BitVec 27),
        Bijective fun middle : UInt32 => output (assemble top middle low) :=
  ⟨ncard_output_eq, output_assemble_bijective⟩

end Pcg

end BattleItems
