/-!
# BattleItems.Binary64.Basic

Double precision numbers as exact arithmetic on naturals.

Every finite double is a whole number of *units* of `2⁻¹⁰⁷⁴`, the spacing of the smallest
ones. Which whole numbers occur is the *grid*: up to `2⁵³` units every number, and from there on
only the multiples of a spacing that doubles with each binary order of magnitude. A finite double
is therefore a sign and a natural number on the grid, two doubles compare as integers do, and
rounding a quotient is one division with remainder (`roundToGrid`).

Nothing here depends on the hardware's floating point: `roundToGrid_onGrid` is the one fact that
the constructors need, and all later laws about gates, heals and boosts are laws about naturals.

Powers are written `Nat.pow`, so that they mean the same whatever algebra is in scope;
`Nat.pow_eq` turns them into the usual form.
-/

namespace BattleItems

namespace Binary64

/-- The quotient to the nearest whole number; an exact half goes to the even neighbour. -/
def roundHalfEven (num den : Nat) : Nat :=
  let quotient := num / den
  let twice := 2 * (num % den)
  if twice < den ∨ (twice = den ∧ quotient % 2 = 0) then quotient else quotient + 1

/-- The binary logarithm of the grid's spacing among magnitudes of about `n` units: 53 significant
bits are kept, and there is no spacing below one unit. -/
def gridShift (n : Nat) : Nat := n.log2 - 52

/-- The magnitudes that a double can hold if there were no largest one. -/
def OnGrid (n : Nat) : Prop := Nat.pow 2 (gridShift n) ∣ n

/-- The first magnitude too large for a finite double: `2¹⁰²⁴`, in units. -/
def overflow : Nat := Nat.pow 2 2098

/-- The magnitudes that a finite double holds. -/
def Representable (n : Nat) : Prop := OnGrid n ∧ n < overflow

instance (n : Nat) : Decidable (OnGrid n) :=
  inferInstanceAs (Decidable (Nat.pow 2 (gridShift n) ∣ n))

instance (n : Nat) : Decidable (Representable n) :=
  inferInstanceAs (Decidable (OnGrid n ∧ n < overflow))

/-- The grid point nearest to `num / den` units; a tie goes to the neighbour with an even
significand. -/
def roundToGrid (num den : Nat) : Nat :=
  let spacing := Nat.pow 2 (gridShift (num / den))
  roundHalfEven num (den * spacing) * spacing

/-! ### Rounding lands on the grid -/

theorem roundHalfEven_le_succ (num den : Nat) : roundHalfEven num den ≤ num / den + 1 := by
  simp only [roundHalfEven]
  split <;> omega

theorem lt_two_pow_gridShift_add (n : Nat) : n < Nat.pow 2 (gridShift n + 53) :=
  Nat.lt_of_lt_of_le Nat.lt_log2_self
    (Nat.pow_le_pow_right (by decide) (by simp only [gridShift]; omega))

/-- A significand of at most 53 bits, carried included, stays on the grid at any spacing. -/
theorem onGrid_mul_two_pow {m : Nat} (s : Nat) (hm : m ≤ Nat.pow 2 53) :
    OnGrid (m * Nat.pow 2 s) := by
  simp only [Nat.pow_eq, OnGrid] at hm ⊢
  rcases Nat.eq_zero_or_pos m with rfl | hpos
  · simp
  have hne : m * 2 ^ s ≠ 0 := Nat.mul_ne_zero (by omega) (by simp)
  rcases Nat.lt_or_eq_of_le hm with hlt | rfl
  · have hlog : (m * 2 ^ s).log2 < 53 + s := by
      rw [Nat.log2_lt hne, Nat.pow_add]
      exact Nat.mul_lt_mul_of_pos_right hlt (Nat.pow_pos (by decide))
    have hle : gridShift (m * 2 ^ s) ≤ s := by simp only [gridShift]; omega
    exact Nat.dvd_trans (Nat.pow_dvd_pow 2 hle) (Nat.dvd_mul_left ..)
  · rw [← Nat.pow_add]
    exact Nat.pow_dvd_pow 2 (by simp only [gridShift, Nat.log2_two_pow]; omega)

theorem roundToGrid_onGrid (num den : Nat) : OnGrid (roundToGrid num den) := by
  apply onGrid_mul_two_pow
  refine Nat.le_trans (roundHalfEven_le_succ _ _) ?_
  have h := lt_two_pow_gridShift_add (num / den)
  simp only [Nat.pow_eq] at h ⊢
  rw [Nat.pow_add, Nat.mul_comm] at h
  have h := Nat.div_lt_of_lt_mul (Nat.mul_comm _ _ ▸ h)
  rw [Nat.div_div_eq_div_mul] at h
  omega

end Binary64

/-- A magnitude in units that a finite double holds. -/
structure Magnitude where
  units : Nat
  representable : Binary64.Representable units
deriving DecidableEq

/-- A double precision number. The two zeros differ as values and compare as equal; there is one
not-a-number, because no operation here tells two of them apart. -/
inductive Binary64 where
  | nan
  | infinite (negative : Bool)
  | finite (negative : Bool) (magnitude : Magnitude)
deriving DecidableEq

namespace Binary64

/-- One, in units. -/
def one : Nat := Nat.pow 2 1074

/-- The magnitude nearest to `num / den` units, or none if that is past the largest. -/
def nearest? (num den : Nat) : Option Magnitude :=
  let units := roundToGrid num den
  if h : units < overflow then some ⟨units, roundToGrid_onGrid num den, h⟩ else none

/-- The double nearest to `num / den` units with the given sign; what is past the largest finite
double is infinite. -/
def ofUnits (negative : Bool) (num den : Nat) : Binary64 :=
  match nearest? num den with
  | some magnitude => .finite negative magnitude
  | none => .infinite negative

/-- The double nearest to a natural number. -/
def ofNat (n : Nat) : Binary64 := ofUnits false (n * one) 1

instance (n : Nat) : OfNat Binary64 n := ⟨ofNat n⟩

instance : Inhabited Binary64 := ⟨0⟩

/-! ### Classification -/

def isFinite : Binary64 → Bool
  | finite .. => true
  | _ => false

def isNegative : Binary64 → Bool
  | nan => false
  | infinite negative | finite negative _ => negative

/-- Finite with no fractional part. -/
def isWhole : Binary64 → Bool
  | finite _ magnitude => magnitude.units % one = 0
  | _ => false

/-! ### Order

The place of a number on the line of integers, in units. An infinity stands where the first
magnitude past the largest finite one would, and not-a-number has no place. -/

def place? : Binary64 → Option Int
  | nan => none
  | infinite negative => some (if negative then -overflow else overflow)
  | finite negative magnitude =>
    some (if negative then -magnitude.units else magnitude.units)

/-- Numeric equality: the zeros are equal and not-a-number equals nothing. -/
def equals (a b : Binary64) : Bool :=
  match a.place?, b.place? with
  | some x, some y => x == y
  | _, _ => false

def less (a b : Binary64) : Bool :=
  match a.place?, b.place? with
  | some x, some y => x < y
  | _, _ => false

def lessEq (a b : Binary64) : Bool :=
  match a.place?, b.place? with
  | some x, some y => x ≤ y
  | _, _ => false

/-- From zero to one inclusive; not-a-number is no probability. -/
def isProbability (p : Binary64) : Bool := lessEq 0 p && lessEq p 1

/-- Finite and not below zero. -/
def isNonNegative (x : Binary64) : Bool := x.isFinite && lessEq 0 x

/-! ### Arithmetic: the exact result, rounded once -/

protected def mul : Binary64 → Binary64 → Binary64
  | nan, _ | _, nan => nan
  | infinite a, infinite b => infinite (a != b)
  | infinite a, finite b m | finite b m, infinite a =>
    if m.units = 0 then nan else infinite (a != b)
  | finite a m, finite b n => ofUnits (a != b) (m.units * n.units) one

protected def div : Binary64 → Binary64 → Binary64
  | nan, _ | _, nan => nan
  | infinite _, infinite _ => nan
  | infinite a, finite b _ => infinite (a != b)
  | finite a _, infinite b => ofUnits (a != b) 0 1
  | finite a m, finite b n =>
    if n.units = 0 then
      if m.units = 0 then nan else infinite (a != b)
    else ofUnits (a != b) (m.units * one) n.units

/-- The sum of opposite numbers is the positive zero. -/
protected def add : Binary64 → Binary64 → Binary64
  | nan, _ | _, nan => nan
  | infinite a, infinite b => if a = b then infinite a else nan
  | infinite a, finite .. | finite .., infinite a => infinite a
  | finite a m, finite b n =>
    if a = b then ofUnits a (m.units + n.units) 1
    else if n.units < m.units then ofUnits a (m.units - n.units) 1
    else if m.units < n.units then ofUnits b (n.units - m.units) 1
    else ofUnits false 0 1

instance : Mul Binary64 := ⟨Binary64.mul⟩
instance : Div Binary64 := ⟨Binary64.div⟩
instance : Add Binary64 := ⟨Binary64.add⟩

/-- The largest whole number not above the double, clamped to what a 32 bit word holds;
not-a-number gives zero. -/
def floorWord : Binary64 → UInt32
  | finite false magnitude => UInt32.ofNat (min (magnitude.units / one) (UInt32.size - 1))
  | infinite false => UInt32.ofNat (UInt32.size - 1)
  | _ => 0

end Binary64

end BattleItems
