import BattleItems.Binary64.Basic

/-!
# BattleItems.Binary64.Shortest

The shortest decimal that reads back as a given double.

The reals that round to a double form an interval around it, which contains its ends exactly if
the significand is even. Decimal grids are tried from the coarsest that has the leading digit, and
on each of them the two neighbours of the value are tested: if any point of a grid lies in the
interval, one of these two does. Of two hits the nearer is taken, and a tie is left to the format.
-/

namespace BattleItems

/-- Where an exact tie between two shortest decimals goes. -/
inductive Tie where
  | up
  | toEven

namespace Tie

/-- Of the neighbours `lower` and `lower + 1`, equally near, the one to write. -/
def choose (tie : Tie) (lower : Nat) : Nat :=
  match tie with
  | up => lower + 1
  | toEven => if lower % 2 = 0 then lower else lower + 1

end Tie

/-- The digits of a positive number and the number of them before the point: `0.digits` times
`10 ^ point`. The last digit is not zero. -/
structure DecimalDigits where
  digits : List Char
  point : Int
deriving DecidableEq, Repr

namespace DecimalDigits

/-- The digits of `significand · 10 ^ exponent`, without zeros at the end. -/
def ofScaled (significand : Nat) (exponent : Int) : DecimalDigits :=
  let digits := Nat.toDigits 10 significand
  { digits := (digits.reverse.dropWhile (· = '0')).reverse,
    point := digits.length + exponent }

/-- The exponent of the leading digit, as scientific notation writes it. -/
def leading (d : DecimalDigits) : Int := d.point - 1

end DecimalDigits

namespace Binary64

/-- The reals that round to a magnitude, around its fourfold in quarters of a unit. -/
structure Vicinity where
  center : Nat
  below : Nat
  above : Nat
  closed : Bool

/-- At a power of two the spacing below is half of the spacing above, unless both are the smallest
spacing there is. -/
def vicinity (units : Nat) : Vicinity :=
  let spacing := Nat.pow 2 (gridShift units)
  { center := 4 * units,
    below := if 0 < gridShift units ∧ units = Nat.pow 2 52 * spacing then spacing else 2 * spacing,
    above := 2 * spacing,
    closed := units / spacing % 2 = 0 }

/-- The neighbour of the value on the grid of `10 ^ exponent` that reads back, if one does. -/
def hit? (tie : Tie) (v : Vicinity) (exponent : Int) : Option DecimalDigits :=
  let step := Nat.pow 10 exponent.toNat * (4 * one)
  let scale := Nat.pow 10 (-exponent).toNat
  let reads (n : Nat) : Bool :=
    let low := (v.center - v.below) * scale
    let high := (v.center + v.above) * scale
    if v.closed then low ≤ n * step && n * step ≤ high else low < n * step && n * step < high
  let lower := v.center * scale / step
  let nearer :=
    match compare (2 * v.center * scale) ((2 * lower + 1) * step) with
    | .lt => lower
    | .eq => tie.choose lower
    | .gt => lower + 1
  match reads lower, reads (lower + 1) with
  | true, true => some (.ofScaled nearer exponent)
  | true, false => some (.ofScaled lower exponent)
  | false, true => some (.ofScaled (lower + 1) exponent)
  | false, false => none

/-- The exponent of the leading decimal digit of a positive magnitude. -/
def leadingExponent (units : Nat) : Int :=
  (Nat.toDigits 10 (units * Nat.pow 10 400 / one)).length - 401

/-- The fewest digits that read back as a positive magnitude; seventeen always do. -/
def shortest (tie : Tie) (units : Nat) : DecimalDigits :=
  let top := leadingExponent units
  let v := vicinity units
  let found := (List.range 17).findSome? fun (dropped : Nat) => hit? tie v (top - dropped)
  found.getD (.ofScaled 0 0)

end Binary64

end BattleItems
