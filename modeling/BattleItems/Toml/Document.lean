import BattleItems.Toml.Scalar

/-!
# BattleItems.Toml.Document

TOML documents: the statements of a text, and the table that they build.

A document is a list of statements: a key with a value, the header of a table, or the header of one
more table in an array. `Statement.ofString?` reads them and knows nothing of what was said before;
`Entries.build?` puts them together and refuses what is defined twice. A table remembers how it
came about, because that decides whether a later statement may add to it.
-/

namespace BattleItems.Toml

/-- A value. Of the values that no setting has, only the kind is kept. -/
inductive Value where
  | integer (n : Int)
  | text (content : String)
  | float
  | bool (b : Bool)
  | moment
  | array
  | table

/-- The names of nested tables, the last of them the key itself. -/
abbrev Path := List String

inductive Statement where
  | assign (path : Path) (value : Value)
  | header (path : Path)
  | arrayHeader (path : Path)

/-! ### Tables -/

/-- How a table came about. -/
inductive Origin where
  /-- By a header of its own. -/
  | header
  /-- As a table around another one that has a header. -/
  | around
  /-- By a key with several names. -/
  | path
deriving DecidableEq

/-- What a table holds under a name. The last of an array's tables stands first. -/
inductive Entry where
  | value (value : Value)
  | table (origin : Origin) (entries : List (String × Entry))
  | tables (elements : List (List (String × Entry)))

abbrev Entries := List (String × Entry)

namespace Entries

def get? (entries : Entries) (name : String) : Option Entry :=
  (entries.find? (·.1 = name)).map (·.2)

/-- Replaces what stands under a name, or adds it. -/
def put (entries : Entries) (name : String) (entry : Entry) : Entries :=
  (name, entry) :: entries.filter (·.1 ≠ name)

/-- Assigns a value under a path. The last name must be free. If the path has more names, the table
that receives the value must have come about by a path too. Further out the way may also lead
through a table that is only around others and through the last table of an array, but not through
one with a header. -/
def assign? (entries : Entries) : Path → Value → Option Entries
  | [], _ => none
  | [name], value =>
    match entries.get? name with
    | none => some (entries.put name (.value value))
    | some _ => none
  | name :: next :: rest, value =>
    match entries.get? name with
    | none => do some (entries.put name (.table .path (← assign? [] (next :: rest) value)))
    | some (.table .path inner) => do
      some (entries.put name (.table .path (← assign? inner (next :: rest) value)))
    | some (.table .around inner) =>
      if rest = [] then none
      else do some (entries.put name (.table .around (← assign? inner (next :: rest) value)))
    | some (.tables (last :: others)) =>
      if rest = [] then none
      else do some (entries.put name (.tables ((← assign? last (next :: rest) value) :: others)))
    | some _ => none

/-- Changes the table that a header's path leads to. Tables on the way come about by it if they are
not there yet, and of an array the last table is meant. -/
def within? (entries : Entries) (change : Entries → Option Entries) : Path → Option Entries
  | [] => change entries
  | name :: rest =>
    match entries.get? name with
    | none => do some (entries.put name (.table .around (← within? [] change rest)))
    | some (.table origin inner) => do
      some (entries.put name (.table origin (← within? inner change rest)))
    | some (.tables (last :: others)) => do
      some (entries.put name (.tables ((← within? last change rest) :: others)))
    | some _ => none

/-- Opens the table of a header: a new one, or one that so far was only around others. -/
def openTable? (name : String) (entries : Entries) : Option Entries :=
  match entries.get? name with
  | none => some (entries.put name (.table .header []))
  | some (.table .around inner) => some (entries.put name (.table .header inner))
  | some _ => none

/-- Opens one more table of an array. -/
def openElement? (name : String) (entries : Entries) : Option Entries :=
  match entries.get? name with
  | none => some (entries.put name (.tables [[]]))
  | some (.tables elements) => some (entries.put name (.tables ([] :: elements)))
  | some _ => none

/-- Carries out statements, given the path of the header in force. -/
def build? : Path → Entries → List Statement → Option Entries
  | _, entries, [] => some entries
  | current, entries, .assign path value :: rest => do
    let entries ← entries.within? (·.assign? path value) current
    build? current entries rest
  | _, entries, .header path :: rest => do
    let name ← path.getLast?
    let entries ← entries.within? (openTable? name) path.dropLast
    build? path entries rest
  | _, entries, .arrayHeader path :: rest => do
    let name ← path.getLast?
    let entries ← entries.within? (openElement? name) path.dropLast
    build? path entries rest

end Entries

/-! ### Statements -/

/-- The rest of a text behind spaces and tabs. -/
def afterBlanks (text : List Char) : List Char :=
  text.dropWhile fun c => c = ' ' || c = '\t'

/-- The rest of a text behind a comment, if one stands here; the line end is left. -/
def afterComment? (text : List Char) : Option (List Char) :=
  match text with
  | '#' :: rest =>
    let comment := rest.takeWhile fun c => c ≠ '\n'
    let content := if comment.getLast? = some '\r' then comment.dropLast else comment
    if content.any isControl then none else some (rest.drop content.length)
  | _ => some text

/-- The rest of a text behind the end of a line; the end of the text will do. -/
def afterLineEnd? (text : List Char) : Option (List Char) :=
  match text with
  | [] => some []
  | '\n' :: rest | '\r' :: '\n' :: rest => some rest
  | _ => none

/-- The rest of a text behind blanks, comments and line ends. -/
def afterSpace? : (fuel : Nat) → List Char → Option (List Char)
  | 0, text => some text
  | fuel + 1, text => do
    let rest ← afterComment? (afterBlanks text)
    match rest with
    | '\n' :: rest | '\r' :: '\n' :: rest => afterSpace? fuel rest
    | rest => some rest

def isBareKeyChar (c : Char) : Bool := c.isAlphanum || c = '_' || c = '-'

/-- One name of a path. -/
def name? (text : List Char) : Option (String × List Char) :=
  match text with
  | '\x22' :: _ | '\x27' :: _ =>
    if text.take 3 = ['\x22', '\x22', '\x22'] ∨ text.take 3 = ['\x27', '\x27', '\x27'] then none
    else text? text
  | _ =>
    let name := text.takeWhile isBareKeyChar
    if name = [] then none else some (String.ofList name, text.drop name.length)

/-- Paths have at most so many names, and brackets nest at most so deep. -/
def nestingLimit : Nat := 80

/-- At most `most` names with points between them, and the rest behind them and their blanks. -/
def names? : (most : Nat) → List Char → Option (List String × List Char)
  | 0, _ => none
  | most + 1, text => do
    let (name, rest) ← name? (afterBlanks text)
    match afterBlanks rest with
    | '.' :: rest => do
      let (names, rest) ← names? most rest
      some (name :: names, rest)
    | rest => some ([name], rest)

/-- A path and the rest behind it and its blanks. -/
def path? (text : List Char) : Option (Path × List Char) := names? nestingLimit text

/-- The spelling of a scalar that is no text. A date and a time may have a space between them. -/
def spelling (text : List Char) : List Char :=
  let isPart := fun (c : Char) =>
    c.isAlphanum || c = '+' || c = '-' || c = '_' || c = '.' || c = ':'
  let first := text.takeWhile isPart
  match text.drop first.length with
  | ' ' :: c :: rest =>
    if isDate first && c.isDigit then first ++ ' ' :: (c :: rest).takeWhile isPart else first
  | _ => first

/-- Whole numbers are refused if they need more than 128 bits. -/
def isInBounds (n : Int) : Bool := -Nat.pow 2 127 ≤ n && n < Nat.pow 2 128

/-- What a spelling means. -/
def scalar? (spelling : List Char) : Option Value :=
  if spelling = "true".toList then some (.bool true)
  else if spelling = "false".toList then some (.bool false)
  else
    match integer? spelling with
    | some n => if isInBounds n then some (.integer n) else none
    | none =>
      if isFloat spelling then if overflows spelling then none else some .float
      else if isMoment spelling then some .moment
      else none

mutual

/-- The value at the start of a text and the rest behind it, where brackets may nest `room` levels
deep. The fuel bounds the length of lists. -/
def value? : (fuel room : Nat) → List Char → Option (Value × List Char)
  | 0, _, _ => none
  | fuel + 1, room, text =>
    match text with
    | '\x22' :: _ | '\x27' :: _ => do
      let (content, rest) ← text? text
      some (.text content, rest)
    | '[' :: rest =>
      match room with
      | 0 => none
      | room + 1 => do
        let rest ← elements? fuel room rest
        some (.array, rest)
    | '\x7b' :: rest =>
      match room with
      | 0 => none
      | room + 1 => do
        let rest ← members? fuel room [] rest
        some (.table, rest)
    | _ => do
      let spelling := spelling text
      let value ← scalar? spelling
      some (value, text.drop spelling.length)

/-- The rest of a text behind the elements of an array and its closing bracket. -/
def elements? : (fuel room : Nat) → List Char → Option (List Char)
  | 0, _, _ => none
  | fuel + 1, room, text => do
    let text ← afterSpace? text.length text
    match text with
    | ']' :: rest => some rest
    | text => do
      let (_, rest) ← value? fuel room text
      let rest ← afterSpace? rest.length rest
      match rest with
      | ',' :: rest => elements? fuel room rest
      | ']' :: rest => some rest
      | _ => none

/-- The rest of a text behind the members of an inline table and its closing brace. -/
def members? : (fuel room : Nat) → Entries → List Char → Option (List Char)
  | 0, _, _, _ => none
  | fuel + 1, room, entries, text => do
    let text ← afterSpace? text.length text
    match text with
    | '\x7d' :: rest => some rest
    | text => do
      let (path, rest) ← path? text
      match rest with
      | '=' :: rest => do
        let (value, rest) ← value? fuel room (afterBlanks rest)
        let entries ← entries.assign? path value
        let rest ← afterSpace? rest.length rest
        match rest with
        | ',' :: rest => members? fuel room entries rest
        | '\x7d' :: rest => some rest
        | _ => none
      | _ => none

end

namespace Statement

/-- The statement at the start of a text and the rest behind it. -/
def next? (text : List Char) : Option (Statement × List Char) :=
  match text with
  | '[' :: '[' :: rest => do
    let (path, rest) ← path? rest
    match rest with
    | ']' :: ']' :: rest => some (.arrayHeader path, rest)
    | _ => none
  | '[' :: rest => do
    let (path, rest) ← path? rest
    match rest with
    | ']' :: rest => some (.header path, rest)
    | _ => none
  | _ => do
    let (path, rest) ← path? text
    match rest with
    | '=' :: rest => do
      let (value, rest) ← value? (2 * rest.length + 2) nestingLimit (afterBlanks rest)
      some (.assign path value, rest)
    | _ => none

/-- The statements of a text, one to a line. -/
def all? : (fuel : Nat) → List Char → Option (List Statement)
  | 0, _ => none
  | fuel + 1, text => do
    match ← afterSpace? text.length text with
    | [] => some []
    | text => do
      let (statement, rest) ← next? text
      let rest ← afterLineEnd? (← afterComment? (afterBlanks rest))
      let statements ← all? fuel rest
      some (statement :: statements)

/-- The statements of a text, which may open with a byte order mark. -/
def ofString? (text : String) : Option (List Statement) :=
  let text := match text.toList with
    | '\ufeff' :: rest => rest
    | rest => rest
  all? (text.length + 1) text

end Statement

/-- The table of a whole document. -/
def document? (text : String) : Option Entries := do
  Entries.build? [] [] (← Statement.ofString? text)

end BattleItems.Toml
