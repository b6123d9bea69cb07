import BattleItems.Binary64.Basic
import BattleItems.Digits

/-!
# BattleItems.Binary64.Decimal

Decimal numbers and the double nearest to one.

A decimal is a signed whole number times a power of ten. Reading one rounds the exact rational
once, so the result is the nearest double whatever the number of digits. Exponents far outside the
range of doubles are settled by size alone: otherwise a short text such as `1e999999999` would ask
for a power of ten that does not fit in memory.
-/

namespace BattleItems

/-- The number `± significand · 10 ^ exponent`. -/
structure Decimal where
  negative : Bool
  significand : Nat
  exponent : Int
deriving DecidableEq, Repr

namespace Decimal

/-- The exponent part of a number: nothing, or `e` and a signed run of at least one digit. -/
def exponent? : List Char → Option Int
  | [] => some 0
  | mark :: rest =>
    if mark = 'e' ∨ mark = 'E' then
      let (negative, digits) := splitSign rest
      if digits ≠ [] ∧ digits.all Char.isDigit then
        some (if negative then -digitsValue digits else digitsValue digits)
      else none
    else none

/-- Reads `[sign] digits [. digits] [exponent]`; one of the two runs of digits may be empty. -/
def ofChars? (text : List Char) : Option Decimal :=
  let (negative, text) := splitSign text
  let whole := text.takeWhile Char.isDigit
  let rest := text.dropWhile Char.isDigit
  let (fraction, rest) := match rest with
    | '.' :: rest => (rest.takeWhile Char.isDigit, rest.dropWhile Char.isDigit)
    | rest => ([], rest)
  if whole ++ fraction = [] then none
  else
    (exponent? rest).map fun exponent =>
      { negative, significand := digitsValue (whole ++ fraction),
        exponent := exponent - fraction.length }

/-- Beyond this power of ten every number is infinite or rounds to zero. -/
def widestExponent : Int := 400

/-- The double nearest to the decimal. -/
def toBinary64 (d : Decimal) : Binary64 :=
  let digits : Int := (Nat.toDigits 10 d.significand).length
  if d.significand = 0 ∨ d.exponent + digits < -widestExponent then Binary64.ofUnits d.negative 0 1
  else if widestExponent < d.exponent then .infinite d.negative
  else if 0 ≤ d.exponent then
    Binary64.ofUnits d.negative (d.significand * Nat.pow 10 d.exponent.toNat * Binary64.one) 1
  else
    Binary64.ofUnits d.negative (d.significand * Binary64.one) (Nat.pow 10 (-d.exponent).toNat)

end Decimal

end BattleItems
