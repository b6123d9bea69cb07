import BattleItems.Digits
import BattleItems.Identifier

/-!
# BattleItems.Ron.Lexeme

The smallest pieces of RON, the object notation in which catalogs and contexts are written: gaps,
names, texts and characters.

Each reader looks at the rest of a document and gives the piece that stands there together with what
is left behind it. Inside of quotes, where an escape may be several characters long, a reader counts
the characters that it passes over instead, so that it ends by its very form.
-/

namespace BattleItems.Ron

/-! ### Gaps -/

def isBlank (c : Char) : Bool :=
  c = ' ' || c = '\n' || c = '\t' || c = '\r' || c = '\x0b' || c = '\x0c' ||
    c = '\u0085' || c = '\u200e' || c = '\u200f' || c = '\u2028' || c = '\u2029'

/-- What a gap between two pieces is made of at some point. -/
inductive Gap where
  | blanks
  /-- A comment up to the end of its line. -/
  | line
  /-- A comment between marks, inside of `depth` others. -/
  | block (depth : Nat)

/-- The rest of a text behind the gap that it opens with. Comments between marks nest and must be
closed. -/
def afterGap? : Gap → List Char → Option (List Char)
  | .blanks, '/' :: '/' :: rest => afterGap? .line rest
  | .blanks, '/' :: '*' :: rest => afterGap? (.block 0) rest
  | .blanks, c :: rest =>
    if isBlank c then afterGap? .blanks rest else if c = '/' then none else some (c :: rest)
  | .line, '\n' :: rest => afterGap? .blanks rest
  | .line, _ :: rest => afterGap? .line rest
  | .block 0, '*' :: '/' :: rest => afterGap? .blanks rest
  | .block (depth + 1), '*' :: '/' :: rest => afterGap? (.block depth) rest
  | .block depth, '/' :: '*' :: rest => afterGap? (.block (depth + 1)) rest
  | .block depth, _ :: rest => afterGap? (.block depth) rest
  | .block _, [] => none
  | _, [] => some []

/-- The rest of a text behind blanks and comments. -/
def afterBlanks? (text : List Char) : Option (List Char) := afterGap? .blanks text

/-! ### Names -/

/-- A name. Written raw, behind `r#`, it is a name even if it spells a keyword. -/
structure Name where
  text : String
  raw : Bool
deriving DecidableEq, Repr

/-- What may stand in a raw name. -/
def isRawNameChar (c : Char) : Bool := isIdentifierRest c || c = '.' || c = '+' || c = '-'

/-- Whether a text opens like quoted text or bytes rather than like a name. -/
def opensQuoted (text : List Char) : Bool :=
  ["b\x22", "b\x27", "br#", "br\x22", "r\x22", "r#\x22", "r##"].any
    fun opening => opening.toList.isPrefixOf text

/-- The name at the start of a text. -/
def name? (text : List Char) : Option (Name × List Char) :=
  if opensQuoted text then none
  else
    match text with
    | 'r' :: '#' :: rest =>
      let name := rest.takeWhile isRawNameChar
      if name = [] then none else some (⟨String.ofList name, true⟩, rest.drop name.length)
    | c :: _ =>
      if isIdentifierStart c then
        let name := text.takeWhile isIdentifierRest
        some (⟨String.ofList name, false⟩, text.drop name.length)
      else none
    | [] => none

/-! ### Escapes -/

/-- The character that a run of bytes encodes, if it encodes just one. -/
def charOfBytes? (bytes : List UInt8) : Option Char := do
  match (← String.fromUTF8? ⟨bytes.toArray⟩).toList with
  | [c] => some c
  | _ => none

/-- The character whose bytes are spelled one by one from behind the first `\x`, and the length of
their spelling. The bytes in front of these are given, and at most `more` may follow the next. -/
def spelledBytes? : (more : Nat) → (before : List UInt8) → List Char → Option (Char × Nat)
  | 0, before, high :: low :: _ => do
    let char ← charOfBytes? (before ++ [UInt8.ofNat (← hexNumber? [high, low])])
    some (char, 2)
  | more + 1, before, high :: low :: rest => do
    let bytes := before ++ [UInt8.ofNat (← hexNumber? [high, low])]
    match charOfBytes? bytes, rest with
    | some char, _ => some (char, 2)
    | none, '\\' :: 'x' :: rest => do
      let (char, length) ← spelledBytes? more bytes rest
      some (char, length + 4)
    | none, _ => none
  | _, _, _ => none

/-- The character that an escape stands for, and the length of the escape behind its backslash. A
character that is spelled in bytes may have `more` bytes behind the first. -/
def escape? (more : Nat) : List Char → Option (Char × Nat)
  | 'n' :: _ => some ('\n', 1)
  | 't' :: _ => some ('\t', 1)
  | 'r' :: _ => some ('\r', 1)
  | '0' :: _ => some ('\x00', 1)
  | '\\' :: _ => some ('\\', 1)
  | '\x22' :: _ => some ('\x22', 1)
  | '\x27' :: _ => some ('\x27', 1)
  | 'x' :: rest => do
    let (char, length) ← spelledBytes? more [] rest
    some (char, length + 1)
  | 'u' :: '\x7b' :: rest =>
    let digits := rest.takeWhile (· ≠ '\x7d')
    if 0 < digits.length ∧ digits.length ≤ 6 ∧ digits.length < rest.length then do
      let char ← charOfNat? (← hexNumber? digits)
      some (char, digits.length + 3)
    else none
  | _ => none

/-- In a text up to four bytes may spell a character. -/
def textEscape? : List Char → Option (Char × Nat) := escape? 3

/-- Among bytes any byte may be spelled; it is given as the character of its number. -/
def byteEscape? : List Char → Option (Char × Nat)
  | 'x' :: high :: low :: _ => do some (Char.ofNat (← hexNumber? [high, low]), 3)
  | text => escape? 0 text

/-! ### Texts, bytes and characters -/

/-- A text up to its closing quote, where the first `skip` characters belong to an escape, and its
length with the quote. -/
def quoted? (escape? : List Char → Option (Char × Nat)) :
    (skip : Nat) → List Char → Option (List Char × Nat)
  | _, [] => none
  | skip + 1, _ :: rest =>
    (quoted? escape? skip rest).map fun (text, length) => (text, length + 1)
  | 0, c :: rest =>
    if c = '\x22' then some ([], 1)
    else if c = '\\' then do
      let (char, length) ← escape? rest
      let (text, total) ← quoted? escape? length rest
      some (char :: text, total + 1)
    else do
      let (text, total) ← quoted? escape? 0 rest
      some (c :: text, total + 1)

/-- A raw text up to the quote that is followed by `hashes` hash signs, and its length with
these. -/
def rawQuoted? (hashes : Nat) : List Char → Option (List Char × Nat)
  | [] => none
  | c :: rest =>
    if c = '\x22' ∧ hashes ≤ rest.length ∧ rest.take hashes = List.replicate hashes '#' then
      some ([], hashes + 1)
    else (rawQuoted? hashes rest).map fun (text, length) => (c :: text, length + 1)

/-- A text in quotes, or raw behind an `r`. -/
def text? (escape? : List Char → Option (Char × Nat)) (text : List Char) :
    Option (String × List Char) :=
  match text with
  | '\x22' :: body => do
    let (content, length) ← quoted? escape? 0 body
    some (String.ofList content, body.drop length)
  | 'r' :: rest =>
    let hashes := (rest.takeWhile (· = '#')).length
    match rest.drop hashes with
    | '\x22' :: body => do
      let (content, length) ← rawQuoted? hashes body
      some (String.ofList content, body.drop length)
    | _ => none
  | _ => none

/-- The rest of a text behind bytes: a text, or a single one in single quotes, from behind the `b`
that marks them. A single byte must be one by itself, also when it is written as a character. -/
def afterBytes? (text : List Char) : Option (List Char) :=
  match text with
  | '\x27' :: '\\' :: 'u' :: _ => none
  | '\x27' :: '\\' :: rest => do
    let (_, length) ← byteEscape? rest
    match rest.drop length with
    | '\x27' :: rest => some rest
    | _ => none
  | '\x27' :: c :: '\x27' :: rest => if c.toNat < 128 then some rest else none
  | _ => (text? byteEscape? text).map (·.2)

/-- A character, from behind its opening quote. -/
def character? (text : List Char) : Option (Char × List Char) :=
  match text with
  | '\\' :: rest => do
    let (char, length) ← escape? 0 rest
    match rest.drop length with
    | '\x27' :: rest => some (char, rest)
    | _ => none
  | c :: '\x27' :: rest => some (c, rest)
  | _ => none

end BattleItems.Ron
