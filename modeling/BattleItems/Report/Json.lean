import BattleItems.Binary64.Text

/-!
# BattleItems.Report.Json

JSON, the format of machine-readable reports.

Objects are printed with their keys in order, so that a report does not depend on the order in which
it was put together. What a number that is not finite would be, JSON cannot say; it is printed as
`null`.
-/

namespace BattleItems

inductive Json where
  | null
  | bool (b : Bool)
  | integer (n : Int)
  | number (x : Binary64)
  | string (content : String)
  | array (items : List Json)
  | object (fields : List (String × Json))

namespace Json

/-- A value, or `null` where there is none. -/
def ofOption {α : Type} (encode : α → Json) (value : Option α) : Json :=
  (value.map encode).getD null

/-- The array of encoded values. -/
def ofList {α : Type} (encode : α → Json) (values : List α) : Json := array (values.map encode)

def ofWord (n : UInt32) : Json := integer n.toNat

/-- An object with one field. -/
def single (key : String) (value : Json) : Json := object [(key, value)]

/-! ### Texts -/

/-- A digit below sixteen. -/
def hexDigit (n : Nat) : Char := Nat.digitChar n

/-- A character inside a quoted text: quotes, backslashes and control characters are escaped. -/
def escapeChar (c : Char) : List Char :=
  if c = '\x22' then ['\\', '\x22']
  else if c = '\\' then ['\\', '\\']
  else if c = '\x08' then ['\\', 'b']
  else if c = '\x0c' then ['\\', 'f']
  else if c = '\n' then ['\\', 'n']
  else if c = '\r' then ['\\', 'r']
  else if c = '\t' then ['\\', 't']
  else if c.toNat < 32 then
    ['\\', 'u', '0', '0', hexDigit (c.toNat / 16), hexDigit (c.toNat % 16)]
  else [c]

def quoted (text : String) : String :=
  "\x22" ++ String.ofList (text.toList.flatMap escapeChar) ++ "\x22"

/-! ### Printing -/

/-- The fields of an object by their keys. -/
def sortFields {α : Type} (fields : List (String × α)) : List (String × α) :=
  fields.mergeSort fun a b => a.1 ≤ b.1

/-- The line break in front of what is nested to a depth. -/
def lineBreak (depth : Nat) : String := "\n" ++ String.ofList (List.replicate (2 * depth) ' ')

/-- Printed items between brackets, a line to each; nothing at all between the brackets of none. -/
def block (depth : Nat) (opening closing : String) : List String → String
  | [] => opening ++ closing
  | items =>
    opening ++ lineBreak (depth + 1) ++ String.intercalate ("," ++ lineBreak (depth + 1)) items ++
      lineBreak depth ++ closing

mutual

/-- A value as it is printed at a depth. -/
def prettyAt (depth : Nat) : Json → String
  | null => "null"
  | bool true => "true"
  | bool false => "false"
  | integer n => toString n
  | number x => x.reportText?.getD "null"
  | string content => quoted content
  | array items => block depth "[" "]" (prettyItems (depth + 1) items)
  | object fields =>
    block depth "\x7b" "\x7d" ((sortFields (prettyFields (depth + 1) fields)).map fun field =>
      quoted field.1 ++ ": " ++ field.2)

def prettyItems (depth : Nat) : List Json → List String
  | [] => []
  | item :: rest => prettyAt depth item :: prettyItems depth rest

/-- The keys of fields with the printed values. -/
def prettyFields (depth : Nat) : List (String × Json) → List (String × String)
  | [] => []
  | (key, value) :: rest => (key, prettyAt depth value) :: prettyFields depth rest

end

/-- A value over several lines, two spaces to a level. -/
def pretty (json : Json) : String := prettyAt 0 json

end Json

end BattleItems
