import BattleItems.Ron.Lexeme

/-!
# BattleItems.Ron.Extensions

The extensions that a document can switch on.

A document may open with attributes such as `#![enable(implicit_some)]`. The extensions that they
name hold for the whole document and decide how its values are read.
-/

namespace BattleItems.Ron

/-- The extensions that are switched on. -/
structure Extensions where
  /-- An optional value may stand without `Some`, or behind it without parentheses. -/
  implicitSome : Bool := false
  /-- A variant that holds a record gives the fields directly. -/
  unwrappedVariants : Bool := false
  /-- Records must be written with their names. -/
  explicitNames : Bool := false
deriving DecidableEq, Repr

namespace Extensions

/-- Switches on the extension of a name. One of the four changes nothing here, because no type of
this library is a record of one unnamed value. -/
def enable? (extensions : Extensions) (name : String) : Option Extensions :=
  if name = "implicit_some" then some { extensions with implicitSome := true }
  else if name = "unwrap_variant_newtypes" then some { extensions with unwrappedVariants := true }
  else if name = "explicit_struct_names" then some { extensions with explicitNames := true }
  else if name = "unwrap_newtypes" then some extensions
  else none

/-- The rest of a text behind marks and the gaps behind them. -/
def afterMarks? : List String → List Char → Option (List Char)
  | [], text => some text
  | mark :: marks, text =>
    if mark.toList.isPrefixOf text then do
      afterMarks? marks (← afterBlanks? (text.drop mark.length))
    else none

/-- Switches on what a list of names says; a comma may stand behind the last. The fuel bounds the
length of the list. -/
def names? : (fuel : Nat) → Extensions → List Char → Option (Extensions × List Char)
  | 0, _, _ => none
  | fuel + 1, extensions, text => do
    let (name, rest) ← name? text
    let extensions ← extensions.enable? name.text
    match ← afterBlanks? rest with
    | ',' :: rest => do
      let rest ← afterBlanks? rest
      if rest.head?.any isIdentifierRest then names? fuel extensions rest
      else some (extensions, rest)
    | rest => some (extensions, rest)

/-- The attributes at the start of a document. The fuel bounds their number. -/
def attributes? : (fuel : Nat) → Extensions → List Char → Option (Extensions × List Char)
  | 0, _, _ => none
  | fuel + 1, extensions, text =>
    if text.head? = some '#' then do
      let rest ← afterMarks? ["#", "!", "[", "enable", "("] text
      let (extensions, rest) ← names? rest.length extensions rest
      attributes? fuel extensions (← afterMarks? [")", "]"] rest)
    else some (extensions, text)

end Extensions

end BattleItems.Ron
