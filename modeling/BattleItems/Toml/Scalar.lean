import BattleItems.Binary64.Decimal

/-!
# BattleItems.Toml.Scalar

The scalars of TOML, the format of the engine's settings: numbers, dates and times, and texts.

Only whole numbers matter to the settings. The other scalars are read to tell a well-formed document
from a malformed one, so for them it is enough to know that a spelling is right.
-/

namespace BattleItems.Toml

/-! ### Numbers -/

/-- Digits of a base with single underscores between them. -/
def isDigits (isDigit : Char → Bool) : List Char → Bool
  | [] => false
  | [c] => isDigit c
  | c :: '_' :: rest => isDigit c && isDigits isDigit rest
  | c :: rest => isDigit c && isDigits isDigit rest

/-- Decimal digits without a zero in front, unless it is all there is. -/
def isDecimal (spelling : List Char) : Bool :=
  isDigits Char.isDigit spelling && (spelling.head? ≠ some '0' || spelling.length == 1)

def isOctalDigit (c : Char) : Bool := '0' ≤ c && c ≤ '7'

def isHexDigit (c : Char) : Bool := (hexValue? c).isSome

/-- The value of digits in a base, whose form is already checked. -/
def valueInBase (base : Nat) (spelling : List Char) : Nat :=
  (spelling.filter (· ≠ '_')).foldl (fun value c => base * value + (hexValue? c).getD 0) 0

/-- A whole number. Only decimal ones may have a sign. -/
def integer? (spelling : List Char) : Option Int :=
  match spelling with
  | '0' :: 'x' :: digits =>
    if isDigits isHexDigit digits then some (valueInBase 16 digits) else none
  | '0' :: 'o' :: digits =>
    if isDigits isOctalDigit digits then some (valueInBase 8 digits) else none
  | '0' :: 'b' :: digits =>
    if isDigits (fun c => c = '0' || c = '1') digits then some (valueInBase 2 digits) else none
  | _ =>
    let (negative, digits) := splitSign spelling
    if isDecimal digits then
      some (if negative then -valueInBase 10 digits else valueInBase 10 digits)
    else none

/-- The part of a number behind its point. -/
def isFraction (spelling : List Char) : Bool := isDigits Char.isDigit spelling

/-- The exponent of a number behind its mark. -/
def isExponent (spelling : List Char) : Bool := isDigits Char.isDigit (splitSign spelling).2

def isExponentMark (c : Char) : Bool := c = 'e' || c = 'E'

/-- A number with a point, an exponent or both, or one that is not finite. -/
def isFloat (spelling : List Char) : Bool :=
  let magnitude := (splitSign spelling).2
  if magnitude = "inf".toList || magnitude = "nan".toList then true
  else
    let whole := magnitude.takeWhile fun c => c ≠ '.' && !isExponentMark c
    let rest := magnitude.drop whole.length
    isDecimal whole &&
      match rest with
      | '.' :: rest =>
        let fraction := rest.takeWhile fun c => !isExponentMark c
        isFraction fraction &&
          match rest.drop fraction.length with
          | [] => true
          | _ :: exponent => isExponent exponent
      | _ :: exponent => isExponent exponent
      | [] => false

/-- Whether digits make a number that is beyond all finite doubles. -/
def overflows (spelling : List Char) : Bool :=
  match Decimal.ofChars? (spelling.filter (· ≠ '_')) with
  | some decimal =>
    match decimal.toBinary64 with
    | .infinite _ => true
    | _ => false
  | none => false

/-! ### Dates and times -/

/-- Two digits that make a number in a range. -/
def isPair (least most : Nat) : List Char → Bool
  | [a, b] =>
    a.isDigit && b.isDigit && least ≤ digitsValue [a, b] && digitsValue [a, b] ≤ most
  | _ => false

def daysInMonth (year month : Nat) : Nat :=
  if month = 2 then
    if year % 4 = 0 ∧ (year % 100 ≠ 0 ∨ year % 400 = 0) then 29 else 28
  else if month = 4 ∨ month = 6 ∨ month = 9 ∨ month = 11 then 30
  else 31

/-- A date such as `1979-05-27`. -/
def isDate : List Char → Bool
  | [y₁, y₂, y₃, y₄, '-', m₁, m₂, '-', d₁, d₂] =>
    [y₁, y₂, y₃, y₄].all Char.isDigit && isPair 1 12 [m₁, m₂] &&
      isPair 1 (daysInMonth (digitsValue [y₁, y₂, y₃, y₄]) (digitsValue [m₁, m₂])) [d₁, d₂]
  | _ => false

/-- Hours and minutes, and with them seconds or not. -/
def isTime : List Char → Bool
  | h₁ :: h₂ :: ':' :: m₁ :: m₂ :: rest =>
    isPair 0 23 [h₁, h₂] && isPair 0 59 [m₁, m₂] &&
      match rest with
      | [] => true
      | ':' :: s₁ :: s₂ :: rest =>
        isPair 0 60 [s₁, s₂] &&
          match rest with
          | [] => true
          | '.' :: fraction => fraction ≠ [] && fraction.all Char.isDigit
          | _ => false
      | _ => false
  | _ => false

/-- A time of day with the difference to universal time. -/
def isOffsetTime (spelling : List Char) : Bool :=
  let time := spelling.takeWhile fun c => c.isDigit || c = ':' || c = '.'
  isTime time &&
    match spelling.drop time.length with
    | ['Z'] | ['z'] => true
    | [sign, h₁, h₂, ':', m₁, m₂] =>
      (sign = '+' || sign = '-') && isPair 0 23 [h₁, h₂] && isPair 0 59 [m₁, m₂]
    | _ => false

/-- A date, a time, or both with a mark between them. -/
def isMoment (spelling : List Char) : Bool :=
  isDate spelling || isTime spelling ||
    (isDate (spelling.take 10) &&
      match spelling.drop 10 with
      | mark :: time =>
        (mark = 'T' || mark = 't' || mark = ' ') && (isTime time || isOffsetTime time)
      | [] => false)

/-! ### Texts -/

/-- Control characters stand neither in texts nor in comments; a tab is none of them. -/
def isControl (c : Char) : Bool := (c.toNat < 32 && c ≠ '\t') || c.toNat = 127

/-- The character for a run of hexadecimal digits of a given length. -/
def hexChar? (length : Nat) (text : List Char) : Option Char := do
  let digits := text.take length
  if digits.length = length then charOfNat? (← hexNumber? digits) else none

/-- The character that an escape stands for, and the length of the escape behind its backslash. -/
def escape? : List Char → Option (Char × Nat)
  | 'b' :: _ => some ('\x08', 1)
  | 't' :: _ => some ('\t', 1)
  | 'n' :: _ => some ('\n', 1)
  | 'f' :: _ => some ('\x0c', 1)
  | 'r' :: _ => some ('\r', 1)
  | 'e' :: _ => some ('\x1b', 1)
  | '\x22' :: _ => some ('\x22', 1)
  | '\\' :: _ => some ('\\', 1)
  | 'x' :: rest => (hexChar? 2 rest).map (·, 3)
  | 'u' :: rest => (hexChar? 4 rest).map (·, 5)
  | 'U' :: rest => (hexChar? 8 rest).map (·, 9)
  | _ => none

/-- A text on one line up to its closing quote, where the first `skip` characters belong to an
escape, and its length with the quote. -/
def line? (quote : Char) (escapes : Bool) : (skip : Nat) → List Char → Option (List Char × Nat)
  | _, [] => none
  | skip + 1, _ :: rest =>
    (line? quote escapes skip rest).map fun (text, length) => (text, length + 1)
  | 0, c :: rest =>
    if c = quote then some ([], 1)
    else if isControl c then none
    else if c = '\\' && escapes then do
      let (char, length) ← escape? rest
      let (text, total) ← line? quote escapes length rest
      some (char :: text, total + 1)
    else do
      let (text, total) ← line? quote escapes 0 rest
      some (c :: text, total + 1)

/-- The length of a run of blanks and line ends. -/
def spaceLength : List Char → Nat
  | '\r' :: '\n' :: rest => spaceLength rest + 2
  | c :: rest => if c = ' ' || c = '\t' || c = '\n' then spaceLength rest + 1 else 0
  | [] => 0

/-- The length of the blanks and line ends behind a backslash that ends a line. -/
def lineJoin? (rest : List Char) : Option Nat :=
  match rest.dropWhile fun c => c = ' ' || c = '\t' with
  | '\n' :: _ | '\r' :: '\n' :: _ => some (spaceLength rest)
  | _ => none

/-- A text over several lines up to three closing quotes; up to two more quotes in front of these
belong to it. -/
def lines? (quote : Char) (escapes : Bool) : (skip : Nat) → List Char → Option (List Char × Nat)
  | _, [] => none
  | skip + 1, _ :: rest =>
    (lines? quote escapes skip rest).map fun (text, length) => (text, length + 1)
  | 0, c :: rest =>
    let quotes := ((c :: rest).takeWhile (· = quote)).length
    if 3 ≤ quotes then
      if quotes ≤ 5 then some (List.replicate (quotes - 3) quote, quotes) else none
    else if c = '\\' && escapes then
      match lineJoin? rest with
      | some length => do
        let (text, total) ← lines? quote escapes length rest
        some (text, total + 1)
      | none => do
        let (char, length) ← escape? rest
        let (text, total) ← lines? quote escapes length rest
        some (char :: text, total + 1)
    else if isControl c && c ≠ '\n' && !(c = '\r' && rest.head? = some '\n') then none
    else do
      let (text, total) ← lines? quote escapes 0 rest
      some (c :: text, total + 1)

/-- A text in quotes and the rest behind it, if one stands here. The line end directly behind three
opening quotes does not count. -/
def text? (input : List Char) : Option (String × List Char) := do
  let (quote, escapes) ← match input.head? with
    | some '\x22' => some ('\x22', true)
    | some '\x27' => some ('\x27', false)
    | _ => none
  if input.take 3 = [quote, quote, quote] then
    let body := match input.drop 3 with
      | '\n' :: body | '\r' :: '\n' :: body => body
      | body => body
    let (text, length) ← lines? quote escapes 0 body
    some (String.ofList text, body.drop length)
  else
    let body := input.drop 1
    let (text, length) ← line? quote escapes 0 body
    some (String.ofList text, body.drop length)

end BattleItems.Toml
