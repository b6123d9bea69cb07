import BattleItems.Ron.Extensions
import BattleItems.Ron.Number

/-!
# BattleItems.Ron.Value

RON documents as trees.

The tree keeps what a document says and leaves open what it means: whether `Burn` is a variant or a
missing optional value shows only once the expected type is known. `Value.height` counts the levels
of a tree, because a document may nest only so deep.
-/

namespace BattleItems.Ron

mutual

/-- A value. -/
inductive Value where
  /-- A number as it is spelled, by digits or by name. -/
  | number (spelling : List Char)
  | bool (b : Bool)
  | text (content : String)
  | character (c : Char)
  | bytes
  /-- A name on its own: a variant without data. -/
  | word (name : String)
  /-- A missing optional value. -/
  | absent
  /-- An optional value that is there. -/
  | present (value : Value)
  /-- An optional value that is there, if `Some` may hold fields like any variant. -/
  | holding (content : Content)
  /-- Parentheses without a name and without even a blank in between. -/
  | unit
  /-- Parentheses, behind a name or not. -/
  | group (name : Option String) (content : Content)
  | list (items : List Value)
  | map (entries : List (Value × Value))

/-- What stands in parentheses. -/
inductive Content where
  | items (items : List Value)
  /-- At least one value with a name. -/
  | fields (fields : List (String × Value))

end

/-! ### Height -/

mutual

/-- The number of levels of a value. A bracket is one, and each thing in it one more. -/
def Value.height : Value → Nat
  | .present value => value.height + 1
  | .holding (.items []) => 1
  | .holding (.items [value]) => value.height + 1
  | .holding content => content.height + 1
  | .group _ content => content.height
  | .list items => itemsHeight items + 1
  | .map entries => entriesHeight entries + 1
  | _ => 0

/-- The number of levels of parentheses and what stands in them. -/
def Content.height : Content → Nat
  | .items items => itemsHeight items + 1
  | .fields fields => fieldsHeight fields + 1

/-- The levels that the items of a bracket add to its own. -/
def itemsHeight : List Value → Nat
  | [] => 0
  | item :: items => max (item.height + 1) (itemsHeight items)

/-- The levels that the fields of a bracket add to its own. -/
def fieldsHeight : List (String × Value) → Nat
  | [] => 0
  | (_, value) :: fields => max (value.height + 1) (fieldsHeight fields)

/-- The levels that the entries of a bracket add to its own. -/
def entriesHeight : List (Value × Value) → Nat
  | [] => 0
  | (key, value) :: entries => max (max key.height value.height + 1) (entriesHeight entries)

end

/-! ### Reading -/

/-- Whether a text opens with the name of a field and its colon. -/
def opensField (text : List Char) : Bool :=
  match name? text with
  | some (_, rest) => (afterBlanks? rest).any (·.head? = some ':')
  | none => false

namespace Value

/-- The value of a word that is no name of a variant. -/
def keyword? (word : String) : Option Value :=
  if word = "true" then some (.bool true)
  else if word = "false" then some (.bool false)
  else if word = "None" then some .absent
  else if (Fractional.named? word.toList).isSome then some (.number word.toList)
  else none

mutual

/-- The value at the start of a text, and the rest behind it. The fuel bounds the nesting and the
length of lists. -/
def parse? (extensions : Extensions) : (fuel : Nat) → List Char → Option (Value × List Char)
  | 0, _ => none
  | fuel + 1, input =>
    match name? input with
    | some (⟨"Some", false⟩, rest) => do option? extensions fuel (← afterBlanks? rest)
    | some (name, rest) => do
      match if name.raw then none else keyword? name.text with
      | some value => some (value, rest)
      | none =>
        match ← afterBlanks? rest with
        | '(' :: rest => do
          let (content, rest) ← content? extensions fuel rest
          some (.group (some name.text) content, rest)
        | rest => some (.word name.text, rest)
    | none =>
      match input with
      | '(' :: ')' :: rest => some (.unit, rest)
      | '(' :: rest => do
        let (content, rest) ← content? extensions fuel rest
        some (.group none content, rest)
      | '[' :: rest => do
        let (items, rest) ← items? extensions fuel ']' rest
        some (.list items, rest)
      | '\x7b' :: rest => do
        let (entries, rest) ← entries? extensions fuel rest
        some (.map entries, rest)
      | '\x27' :: rest => do
        let (char, rest) ← character? rest
        some (.character char, rest)
      | 'b' :: rest => do some (.bytes, ← afterBytes? rest)
      | _ =>
        if input.head?.any isNumberStart then
          let spelling := input.takeWhile isNumberChar
          if isNumber spelling then some (.number spelling, input.drop spelling.length) else none
        else do
          let (content, rest) ← text? textEscape? input
          some (.text content, rest)

/-- An optional value from behind its `Some`: one value in parentheses, or any fields and values if
the extension for it is on. The parentheses may be missing under another extension. -/
def option? (extensions : Extensions) : (fuel : Nat) → List Char → Option (Value × List Char)
  | 0, _ => none
  | fuel + 1, input =>
    match input with
    | '(' :: rest => do
      let (content, rest) ← content? extensions fuel rest
      if extensions.unwrappedVariants then some (.holding content, rest)
      else
        match content with
        | .items [value] => some (.present value, rest)
        | _ => none
    | _ =>
      if extensions.implicitSome then do
        let (value, rest) ← parse? extensions fuel input
        some (.present value, rest)
      else none

/-- What stands in parentheses, from behind the opening one. -/
def content? (extensions : Extensions) : (fuel : Nat) → List Char → Option (Content × List Char)
  | 0, _ => none
  | fuel + 1, input => do
    let input ← afterBlanks? input
    if opensField input then do
      let (fields, rest) ← fields? extensions fuel input
      some (.fields fields, rest)
    else do
      let (items, rest) ← items? extensions fuel ')' input
      some (.items items, rest)

/-- Values up to a closing mark, separated by commas; a comma may stand behind the last. -/
def items? (extensions : Extensions) :
    (fuel : Nat) → (closing : Char) → List Char → Option (List Value × List Char)
  | 0, _, _ => none
  | fuel + 1, closing, input => do
    let input ← afterBlanks? input
    if input.head? = some closing then some ([], input.drop 1)
    else do
      let (item, rest) ← parse? extensions fuel input
      match ← afterBlanks? rest with
      | ',' :: rest => do
        let (items, rest) ← items? extensions fuel closing rest
        some (item :: items, rest)
      | rest => if rest.head? = some closing then some ([item], rest.drop 1) else none

/-- Named values up to a closing parenthesis. -/
def fields? (extensions : Extensions) :
    (fuel : Nat) → List Char → Option (List (String × Value) × List Char)
  | 0, _ => none
  | fuel + 1, input => do
    match ← afterBlanks? input with
    | ')' :: rest => some ([], rest)
    | input => do
      let (name, rest) ← name? input
      match ← afterBlanks? rest with
      | ':' :: rest => do
        let (value, rest) ← parse? extensions fuel (← afterBlanks? rest)
        match ← afterBlanks? rest with
        | ',' :: rest => do
          let (fields, rest) ← fields? extensions fuel rest
          some ((name.text, value) :: fields, rest)
        | ')' :: rest => some ([(name.text, value)], rest)
        | _ => none
      | _ => none

/-- Pairs of keys and values up to a closing brace. -/
def entries? (extensions : Extensions) :
    (fuel : Nat) → List Char → Option (List (Value × Value) × List Char)
  | 0, _ => none
  | fuel + 1, input => do
    match ← afterBlanks? input with
    | '\x7d' :: rest => some ([], rest)
    | input => do
      let (key, rest) ← parse? extensions fuel input
      match ← afterBlanks? rest with
      | ':' :: rest => do
        let (value, rest) ← parse? extensions fuel (← afterBlanks? rest)
        match ← afterBlanks? rest with
        | ',' :: rest => do
          let (entries, rest) ← entries? extensions fuel rest
          some ((key, value) :: entries, rest)
        | '\x7d' :: rest => some ([(key, value)], rest)
        | _ => none
      | _ => none

end

end Value

/-! ### Documents -/

/-- A value and the extensions under which it is read. -/
structure Document where
  extensions : Extensions
  value : Value

namespace Document

/-- Reads a document: attributes, one value, and nothing behind it but blanks and comments. -/
def ofString? (text : String) : Option Document := do
  let text ← afterBlanks? text.toList
  let (extensions, text) ← Extensions.attributes? (text.length + 1) {} text
  let (value, rest) ← Value.parse? extensions (3 * text.length + 3) text
  if (← afterBlanks? rest).isEmpty then some { extensions, value } else none

end Document

end BattleItems.Ron
