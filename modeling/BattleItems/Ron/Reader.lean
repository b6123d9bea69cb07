import BattleItems.Ron.Value
import BattleItems.Vocabulary
import BattleItems.Words

/-!
# BattleItems.Ron.Reader

Reading values of a document as values of a type.

A reader of `α` gives the value that a piece of a document stands for, if the piece has the right
form. Records may leave out optional fields, may hold fields that nobody reads, and must not give a
field twice.

A document may nest 128 levels deep. The types of this library nest far less, so only fields that
nobody reads can go beyond; every record checks its fields against the levels that are left.
-/

namespace BattleItems.Ron

/-- How a piece of a document is read. -/
structure Scope where
  extensions : Extensions
  /-- The number of levels that are left. -/
  room : Nat

namespace Scope

/-- The scope of a whole document. -/
def ofDocument (document : Document) : Scope := { extensions := document.extensions, room := 128 }

/-- The scope inside of a piece that takes some levels. -/
def within (scope : Scope) (levels : Nat) : Scope := { scope with room := scope.room - levels }

end Scope

/-- Reads pieces of a document as an `α`. -/
structure Reader (α : Type) where
  /-- Reads a value. -/
  value? : Scope → Value → Option α
  /-- Reads what stands in the parentheses of a variant if it is not wrapped up in parentheses of
  its own. For most types that is a single value. -/
  unwrapped? : Scope → Content → Option α := fun scope content =>
    match content with
    | .items [value] => value? scope value
    | _ => none

/-! ### Fields -/

/-- The fields of a record and their scope. -/
structure Fields where
  scope : Scope
  entries : List (String × Value)

namespace Fields

variable {α : Type}

/-- The fields of a record, if none of them goes beyond the levels that are left. -/
def of? (scope : Scope) (entries : List (String × Value)) : Option Fields :=
  if entries.all fun (_, value) => value.height ≤ scope.room then some ⟨scope, entries⟩ else none

/-- A field that must be there. -/
def required? (fields : Fields) (name : String) (reader : Reader α) : Option α :=
  match fields.entries.filter (·.1 = name) with
  | [(_, value)] => reader.value? fields.scope value
  | _ => none

/-- A field that may be missing. -/
def get? (fields : Fields) (name : String) (reader : Reader α) (missing : α) : Option α :=
  match fields.entries.filter (·.1 = name) with
  | [] => some missing
  | [(_, value)] => reader.value? fields.scope value
  | _ => none

end Fields

/-- The fields in parentheses; nothing at all is a record without fields. -/
def Content.entries? : Content → Option (List (String × Value))
  | .fields entries => some entries
  | .items [] => some []
  | .items _ => none

/-! ### Variants -/

/-- A variant of a type: its name, and how what stands behind the name is read. -/
structure Variant (α : Type) where
  name : String
  read? : Scope → Option Content → Option α

namespace Reader

variable {α β : Type}

/-- Reads what stands in the parentheses of a variant that holds an `α`. -/
def held? (reader : Reader α) (scope : Scope) (content : Content) : Option α :=
  if scope.extensions.unwrappedVariants then reader.unwrapped? scope content
  else
    match content with
    | .items [value] => reader.value? scope value
    | _ => none

end Reader

namespace Variant

variable {α β : Type}

/-- A variant without data. -/
def plain (name : String) (a : α) : Variant α where
  name
  read?
    | _, none => some a
    | _, some _ => none

/-- A variant that holds a value. -/
def holding (name : String) (make : β → α) (reader : Reader β) : Variant α where
  name
  read?
    | _, none => none
    | scope, some content => (reader.held? (scope.within 2) content).map make

/-- A variant with fields. -/
def record (name : String) (read? : Fields → Option α) : Variant α where
  name
  read?
    | _, none => none
    | scope, some content => do read? (← Fields.of? (scope.within 3) (← content.entries?))

end Variant

/-! ### Readers -/

namespace Reader

variable {α β : Type}

/-- Reads a value from the start of a document to its end. -/
def document? (reader : Reader α) (text : String) : Option α := do
  let document ← Document.ofString? text
  reader.value? (Scope.ofDocument document) document.value

def text : Reader String where
  value?
    | _, .text content => some content
    | _, _ => none

def bool : Reader Bool where
  value?
    | _, .bool b => some b
    | _, _ => none

/-- A whole number that a word without sign holds. -/
def word32 : Reader UInt32 where
  value?
    | _, .number spelling => do word32? (← (← Whole.ofChars? spelling).as? ⟨false, 32⟩)
    | _, _ => none

/-- A whole number that a word with sign holds. -/
def signed32 : Reader Int32 where
  value?
    | _, .number spelling => do signed32? (← (← Whole.ofChars? spelling).as? ⟨true, 32⟩)
    | _, _ => none

def number : Reader Binary64 where
  value?
    | _, .number spelling => do (← Fractional.ofChars? spelling).toBinary64?
    | _, _ => none

/-- `None` or `Some(x)`; with the extension for it also `x` itself. -/
def optional (reader : Reader α) : Reader (Option α) where
  value?
    | _, .absent => some none
    | scope, .present value => (reader.value? (scope.within 1) value).map some
    | scope, .holding content => (reader.held? (scope.within 1) content).map some
    | scope, value =>
      if scope.extensions.implicitSome then (reader.value? (scope.within 1) value).map some
      else none

def list (reader : Reader α) : Reader (List α) where
  value?
    | scope, .list items => items.mapM (reader.value? (scope.within 2))
    | _, _ => none

/-- Pairs of keys and values, in the order of the document. -/
def map (keyReader : Reader α) (valueReader : Reader β) : Reader (List (α × β)) where
  value?
    | scope, .map entries =>
      entries.mapM fun (key, value) => do
        let scope := scope.within 2
        some (← keyReader.value? scope key, ← valueReader.value? scope value)
    | _, _ => none

/-- A variant without data, by its tag. -/
def vocabulary [Vocabulary α] : Reader α where
  value?
    | _, .word name => Vocabulary.ofTag? name
    | _, _ => none

/-- One of the variants of a type. -/
def oneOf (variants : List (Variant α)) : Reader α where
  value? scope value := do
    let (name, content) ← match value with
      | .word name => some (name, none)
      | .group (some name) content => some (name, some content)
      | _ => none
    let variant ← variants.find? (·.name = name)
    variant.read? scope content

/-- A record of a given name. The name may be missing unless the document asks for names, and it is
missing if a variant gives the fields directly. -/
def record (name : String) (read? : Fields → Option α) : Reader α where
  value? scope value := do
    let (found, content) ← match value with
      | .unit => some (none, .items [])
      | .group found content => some (found, content)
      | _ => none
    if found = some name ∨ (found = none ∧ !scope.extensions.explicitNames) then
      read? (← Fields.of? (scope.within 2) (← content.entries?))
    else none
  unwrapped? scope content := do read? (← Fields.of? (scope.within 2) (← content.entries?))

end Reader

end BattleItems.Ron
