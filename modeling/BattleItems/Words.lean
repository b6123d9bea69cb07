/-!
# BattleItems.Words

Whole numbers as words of 32 bits, for the readers of files and command lines. A number outside the
range of the word is refused and never wrapped.
-/

namespace BattleItems

/-- The word without sign that holds a whole number. -/
def word32? (n : Int) : Option UInt32 :=
  if 0 ≤ n ∧ n < UInt32.size then some (UInt32.ofNat n.toNat) else none

/-- The word with sign that holds a whole number. -/
def signed32? (n : Int) : Option Int32 :=
  if Int32.minValue.toInt ≤ n ∧ n ≤ Int32.maxValue.toInt then some (Int32.ofInt n) else none

end BattleItems
