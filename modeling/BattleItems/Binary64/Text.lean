import BattleItems.Binary64.Shortest

/-!
# BattleItems.Binary64.Text

How numbers are written: in messages (`Binary64.text`), as percentages (`Binary64.percentText`)
and in machine-readable reports (`Binary64.reportText?`).
-/

namespace BattleItems

namespace DecimalDigits

/-- A run of zeros; none if the length is negative. -/
def zeros (n : Int) : List Char := List.replicate n.toNat '0'

/-- The digits written out around the point, without an exponent. A whole number gets `.0` only if
asked for. -/
def positional (pointZero : Bool) (d : DecimalDigits) : List Char :=
  if d.point ≤ 0 then '0' :: '.' :: zeros (-d.point) ++ d.digits
  else if d.digits.length ≤ d.point then
    d.digits ++ zeros (d.point - d.digits.length) ++ (if pointZero then ['.', '0'] else [])
  else
    d.digits.take d.point.toNat ++ '.' :: d.digits.drop d.point.toNat

/-- One digit, the rest behind the point, and a signed exponent. -/
def scientific (d : DecimalDigits) : List Char :=
  let exponent := (Nat.toDigits 10 d.leading.natAbs)
  let sign := if d.leading < 0 then '-' else '+'
  d.digits.take 1 ++ (if d.digits.length ≤ 1 then [] else '.' :: d.digits.drop 1) ++
    'e' :: sign :: exponent

end DecimalDigits

namespace Binary64

/-- A text behind its sign. -/
def signed (negative : Bool) (text : List Char) : String :=
  String.ofList (if negative then '-' :: text else text)

/-- The form used inside messages: never an exponent, no `.0`, and a tie between two shortest
decimals goes up. -/
def text : Binary64 → String
  | nan => "NaN"
  | infinite negative => signed negative "inf".toList
  | finite negative magnitude =>
    if magnitude.units = 0 then signed negative ['0']
    else signed negative ((shortest .up magnitude.units).positional false)

instance : ToString Binary64 := ⟨text⟩

/-- A number in a report: `.0` behind whole numbers, an exponent from `1e+16` up and below
`0.00001`, ties to even. What is not finite has no such form. -/
def reportText? : Binary64 → Option String
  | nan | infinite _ => none
  | finite negative magnitude =>
    if magnitude.units = 0 then some (signed negative "0.0".toList)
    else
      let d := shortest .toEven magnitude.units
      let digits := if -5 ≤ d.leading ∧ d.leading < 16 then d.positional true else d.scientific
      some (signed negative digits)

/-- The exact value to a number of decimal places, an exact half to the even neighbour. -/
def fixed (places : Nat) : Binary64 → String
  | nan => "NaN"
  | infinite negative => signed negative "inf".toList
  | finite negative magnitude =>
    let digits := Nat.toDigits 10 (roundHalfEven (magnitude.units * Nat.pow 10 places) one)
    let padded := List.replicate (places + 1 - digits.length) '0' ++ digits
    let whole := padded.take (padded.length - places)
    let fraction := padded.drop (padded.length - places)
    signed negative (whole ++ (if places = 0 then [] else '.' :: fraction))

/-- A probability as a percentage: no decimals if the scaled double is whole, else one. -/
def percentText (probability : Binary64) : String :=
  let percent := probability * 100
  if percent.isWhole then percent.fixed 0 else percent.fixed 1

end Binary64

end BattleItems
