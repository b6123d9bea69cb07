import BattleItems.Binary64.Decimal

/-!
# BattleItems.Ron.Number

Numbers as they are spelled.

Whole numbers may be given in four bases, and underscores may group digits. A number may end with
the type that it is meant for, such as `5u32` or `1.5f64`; a reader of another type refuses it then.
`isNumber` says which spellings are numbers at all, whatever they are read as.
-/

namespace BattleItems.Ron

def isNumberStart (c : Char) : Bool := c.isDigit || c = '+' || c = '-' || c = '.'

def isNumberChar (c : Char) : Bool := isNumberStart c || c.isAlpha || c = '_'

/-! ### Whole numbers -/

/-- A type of words, by the number of their bits. -/
structure WordType where
  signed : Bool
  bits : Nat
deriving DecidableEq, Repr

namespace WordType

/-- Whether a word of the type can hold a number. -/
def holds (type : WordType) (n : Int) : Bool :=
  if type.signed then -Nat.pow 2 (type.bits - 1) ≤ n && n < Nat.pow 2 (type.bits - 1)
  else 0 ≤ n && n < Nat.pow 2 type.bits

/-- The type that an ending names. -/
def ofEnding? : List Char → Option WordType
  | 'i' :: bits => (bits? bits).map (⟨true, ·⟩)
  | 'u' :: bits => (bits? bits).map (⟨false, ·⟩)
  | _ => none
where
  bits? (bits : List Char) : Option Nat :=
    [8, 16, 32, 64].find? fun n => bits = Nat.toDigits 10 n

end WordType

/-- A whole number, and the type that its spelling ends with. -/
structure Whole where
  type : Option WordType
  value : Int
deriving DecidableEq, Repr

namespace Whole

/-- Digits in a base, with underscores anywhere but in front. -/
def digits? (base : Nat) (spelling : List Char) : Option Nat :=
  if spelling = [] ∨ spelling.head? = some '_' then none
  else
    (spelling.filter (· ≠ '_')).foldlM (fun value digit => do
      let digit ← hexValue? digit
      if digit < base then some (base * value + digit) else none) 0

/-- Digits behind the mark of their base; without a mark the base is ten. -/
def magnitude? : List Char → Option Nat
  | '0' :: 'x' :: digits => digits? 16 digits
  | '0' :: 'b' :: digits => digits? 2 digits
  | '0' :: 'o' :: digits => digits? 8 digits
  | digits => digits? 10 digits

/-- A whole number with a sign or without. The ending is looked for directly behind hexadecimal
digits, so that none can follow the marks `0x` and `0o`. -/
def ofChars? (spelling : List Char) : Option Whole := do
  let (negative, spelling) := splitSign spelling
  let signed : Nat → Int := fun n => if negative then -n else n
  let digits := spelling.takeWhile fun c => (hexValue? c).isSome || c = '_'
  match WordType.ofEnding? (spelling.drop digits.length) with
  | some type =>
    let value := signed (← magnitude? digits)
    if type.holds value then some ⟨some type, value⟩ else none
  | none => some ⟨none, signed (← magnitude? spelling)⟩

/-- The number, if it is not marked with another type than this. -/
def as? (whole : Whole) (type : WordType) : Option Int :=
  if whole.type.all (· = type) then some whole.value else none

/-- Without an ending, the widest words set the range. -/
def isInRange (whole : Whole) : Bool :=
  whole.type.isSome || WordType.holds ⟨true, 64⟩ whole.value ||
    WordType.holds ⟨false, 64⟩ whole.value

end Whole

/-! ### Fractional numbers -/

/-- A number with or without a point and an exponent, and the bits of the type that its spelling
ends with. -/
structure Fractional where
  bits : Option Nat
  value : Binary64
deriving DecidableEq

namespace Fractional

/-- The bits of the type that an ending names; the empty ending names none. -/
def ofEnding? (ending : List Char) : Option (Option Nat) :=
  if ending = [] then some none
  else if ending = "f32".toList then some (some 32)
  else if ending = "f64".toList then some (some 64)
  else none

/-- Drops the underscores from a number. They may follow a digit, another underscore or the mark of
the exponent. -/
def withoutUnderscores? : (allowed : Bool) → List Char → Option (List Char)
  | _, [] => some []
  | allowed, c :: rest =>
    if c = '_' then if allowed then withoutUnderscores? true rest else none
    else
      let allowed := if c = '.' then false else allowed || c.isDigit || c = 'e' || c = 'E'
      (withoutUnderscores? allowed rest).map (c :: ·)

/-- A number that is given by a name. -/
def named? (spelling : List Char) : Option Fractional :=
  let (negative, name) := splitSign spelling
  let value? : Option Binary64 :=
    if name.take 3 = "inf".toList then some (.infinite negative)
    else if name.take 3 = "NaN".toList then some .nan
    else none
  do some ⟨← ofEnding? (name.drop 3), ← value?⟩

/-- A number that is given by its digits; those of a whole number will do. -/
def ofDigits? (spelling : List Char) : Option Fractional := do
  let digits := spelling.takeWhile fun c => isNumberStart c || c = '_' || c = 'e' || c = 'E'
  let bits ← ofEnding? (spelling.drop digits.length)
  let decimal ← Decimal.ofChars? (← withoutUnderscores? false digits)
  some ⟨bits, decimal.toBinary64⟩

def ofChars? (spelling : List Char) : Option Fractional := named? spelling <|> ofDigits? spelling

/-- The number as a double, if it is not marked as a narrower one. -/
def toBinary64? (number : Fractional) : Option Binary64 :=
  if number.bits.all (· = 64) then some number.value else none

end Fractional

/-- Whether a spelling is a number. A whole number that no word can hold must do as a fractional
one. -/
def isNumber (spelling : List Char) : Bool :=
  (Whole.ofChars? spelling).any Whole.isInRange || (Fractional.ofChars? spelling).isSome

end BattleItems.Ron
