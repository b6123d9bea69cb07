import BattleItems.Random.Source

/-!
# BattleItems.Random.Pcg

The PCG-XSH-RR generator with 64 bits of state, and the seeds for it.

The state advances by an affine step modulo `2⁶⁴`; the word that is drawn is a permutation of the
new state's upper bits, rotated by its top five. Seeds for the single calls of a battle are mixed
from the battle's seed, the turn and a slot, so that two items used in one turn do not share a
stream.
-/

namespace BattleItems

/-- A generator; its seed is its first state. -/
structure Pcg where
  state : UInt64
deriving DecidableEq, Repr

namespace Pcg

def multiplier : UInt64 := 6364136223846793005

def increment : UInt64 := 1442695040888963407

def seeded (seed : UInt64) : Pcg := ⟨seed⟩

instance : Inhabited Pcg := ⟨seeded 0⟩

/-- The affine step of the state. -/
def advance (state : UInt64) : UInt64 := state * multiplier + increment

/-- Turns the bits of a word to the right. -/
def rotateRight (word : UInt32) (places : Nat) : UInt32 :=
  ⟨word.toBitVec.rotateRight places⟩

/-- The word that a state gives. -/
def output (state : UInt64) : UInt32 :=
  rotateRight (((state >>> 18) ^^^ state) >>> 27).toUInt32 (state >>> 59).toNat

/-- The word of the next state, and the generator at that state. -/
def next (generator : Pcg) : UInt32 × Pcg :=
  let state := advance generator.state
  (output state, ⟨state⟩)

instance : DrawSource Pcg where
  draw generator := (.ok generator.next.1, generator.next.2)

end Pcg

/-- Mixes the seed of one call out of the battle's seed, the turn and the slot of the call. -/
def deriveSeed (battleSeed : UInt64) (turn slot : UInt32) : UInt64 :=
  let mixed := battleSeed ^^^ (turn.toUInt64 * 0x9e3779b97f4a7c15) ^^^
    (slot.toUInt64 * 0x517cc1b727220a95)
  let folded := mixed ^^^ (mixed >>> 33)
  let scrambled := folded * 0xff51afd7ed558ccd
  scrambled ^^^ (scrambled >>> 33)

end BattleItems
