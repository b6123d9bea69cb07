import BattleItems.Catalog.Issues
import BattleItems.Content.Catalog
import BattleItems.Content.Context
import BattleItems.Content.Settings

/-!
# BattleItems.Content.Load

From texts and files to catalogs, contexts and settings.

`Catalog.ofText`, `Context.ofText` and `Settings.ofText` are the gates of the engine: what they let
through satisfies `Catalog.IsValid` and `Context.HpWithinMax`, and everything else is a
`LoadFailure` that says why. Files are read through a `FileReader`, so loading is the same function
whether the files lie on a disk or in a list.
-/

namespace BattleItems

/-- Why the text of a file cannot be had. -/
inductive ReadFailure where
  | missing
  /-- Something on the way to the file is no directory. -/
  | notADirectory
  | isADirectory
  | denied
  /-- The bytes of the file are no text. -/
  | notText
  | other (detail : String)
deriving DecidableEq, Repr

namespace ReadFailure

def message : ReadFailure → String
  | missing => "No such file or directory (os error 2)"
  | denied => "Permission denied (os error 13)"
  | notADirectory => "Not a directory (os error 20)"
  | isADirectory => "Is a directory (os error 21)"
  | notText => "stream did not contain valid UTF-8"
  | other detail => detail

end ReadFailure

/-- What a document describes. -/
inductive Subject where
  | catalog
  | context
  | settings
deriving DecidableEq, Repr

namespace Subject

/-- The subject and its format, as a failure to read it calls them. -/
def name : Subject → String
  | catalog => "item catalog RON"
  | context => "context RON"
  | settings => "config TOML"

end Subject

/-- Why something could not be loaded. -/
inductive LoadFailure where
  | unreadable (path : String) (cause : ReadFailure)
  /-- The text does not read as a document of its subject. -/
  | malformed (subject : Subject)
  | invalidCatalog (issues : List Issue)
  /-- A creature claims more HP than its maximum. -/
  | excessHp (detail : String)
  /-- What is wrong with the catalog in a file. -/
  | inCatalog (path : String) (cause : LoadFailure)
deriving DecidableEq

namespace LoadFailure

/-- The messages of a failure, each followed by its cause. -/
def chain : LoadFailure → List String
  | unreadable path cause => [s!"Failed to read file {path}: " ++ cause.message]
  | malformed subject => ["Failed to parse " ++ subject.name]
  | invalidCatalog issues =>
    let lines := issues.map fun issue => "  - " ++ issue.message
    [s!"Catalog has {issues.length} validation issue(s):\n" ++ String.intercalate "\n" lines]
  | excessHp detail => [detail]
  | inCatalog path cause => s!"Invalid catalog {path}" :: cause.chain

/-- Whether the root of a failure is a text that does not read as its subject. -/
def isMalformed : LoadFailure → Bool
  | malformed _ => true
  | inCatalog _ cause => cause.isMalformed
  | _ => false

end LoadFailure

/-! ### Texts -/

namespace Catalog

/-- A catalog without issues. -/
def IsValid (catalog : Catalog) : Prop := catalog.issues = []

/-- Reads a catalog, whatever its issues. -/
def ofTextUnchecked (text : String) : Except LoadFailure Catalog :=
  match Content.catalog.document? text with
  | some catalog => .ok catalog
  | none => .error (.malformed .catalog)

/-- Reads a catalog that has no issues. -/
def ofText (text : String) : Except LoadFailure Catalog := do
  let catalog ← ofTextUnchecked text
  if catalog.issues.isEmpty then .ok catalog else .error (.invalidCatalog catalog.issues)

/-- Reading succeeds exactly on what reads unchecked and has no issues. -/
theorem ofText_eq_ok_iff {text : String} {catalog : Catalog} :
    ofText text = .ok catalog ↔ ofTextUnchecked text = .ok catalog ∧ catalog.IsValid := by
  cases h : ofTextUnchecked text with
  | error failure => simp [ofText, h, bind, Except.bind]
  | ok read =>
    by_cases hissues : read.issues = []
    · have hread : ofText text = .ok read := by simp [ofText, h, hissues, bind, Except.bind]
      simp only [hread, Except.ok.injEq, IsValid]
      exact ⟨fun heq => ⟨heq, heq ▸ hissues⟩, fun hboth => hboth.1⟩
    · simp only [ofText, h, bind, Except.bind, List.isEmpty_iff, hissues, if_false, reduceCtorEq,
        Except.ok.injEq, IsValid, false_iff, not_and]
      rintro rfl
      exact hissues

end Catalog

namespace Context

/-- Reads a context in which no creature claims more HP than its maximum. -/
def ofText (text : String) : Except LoadFailure Context :=
  match Content.context.document? text with
  | none => .error (.malformed .context)
  | some context =>
    match context.creatures.findSome? Creature.excessHp? with
    | some detail => .error (.excessHp detail)
    | none => .ok context

/-- No creature is found with excess HP exactly if all are within their maximum. -/
theorem findSome?_excessHp?_eq_none_iff {context : Context} :
    context.creatures.findSome? Creature.excessHp? = none ↔ context.HpWithinMax := by
  simp [List.findSome?_eq_none_iff, Creature.excessHp?, HpWithinMax]

/-- Reading succeeds exactly on what reads and has no creature above its maximum. -/
theorem ofText_eq_ok_iff {text : String} {context : Context} :
    ofText text = .ok context ↔
      Content.context.document? text = some context ∧ context.HpWithinMax := by
  cases h : Content.context.document? text with
  | none => simp [ofText, h]
  | some read =>
    cases hexcess : read.creatures.findSome? Creature.excessHp? with
    | none =>
      have hwithin := findSome?_excessHp?_eq_none_iff.1 hexcess
      simp only [ofText, h, hexcess, Except.ok.injEq, Option.some.injEq]
      exact ⟨fun heq => ⟨heq, heq ▸ hwithin⟩, fun hboth => hboth.1⟩
    | some detail =>
      simp only [ofText, h, hexcess, reduceCtorEq, Option.some.injEq, false_iff, not_and]
      rintro rfl hwithin
      simp [findSome?_excessHp?_eq_none_iff.2 hwithin] at hexcess

end Context

namespace Settings

def ofText (text : String) : Except LoadFailure Settings :=
  match Content.settings? text with
  | some settings => .ok settings
  | none => .error (.malformed .settings)

end Settings

/-! ### Files -/

/-- Gives the text at a path. -/
abbrev FileReader (m : Type → Type) := String → m (Except ReadFailure String)

section

variable {m : Type → Type} [Monad m]

/-- Reads what the file at a path holds. -/
def loadWith {α : Type} (ofText : String → Except LoadFailure α) (read : FileReader m)
    (path : String) : ExceptT LoadFailure m α := do
  match ← read path with
  | .ok text => ofText text
  | .error cause => throw (.unreadable path cause)

namespace Catalog

/-- Names the file in which a catalog is wrong. -/
def located {α : Type} (path : String) (ofText : String → Except LoadFailure α) (text : String) :
    Except LoadFailure α :=
  (ofText text).mapError (.inCatalog path)

/-- Loads a catalog that has no issues. -/
def load (read : FileReader m) (path : String) : ExceptT LoadFailure m Catalog :=
  loadWith (located path ofText) read path

/-- Loads a catalog, whatever its issues. -/
def loadUnchecked (read : FileReader m) (path : String) : ExceptT LoadFailure m Catalog :=
  loadWith (located path ofTextUnchecked) read path

end Catalog

/-- Loads a context in which no creature claims more HP than its maximum. -/
def Context.load (read : FileReader m) (path : String) : ExceptT LoadFailure m Context :=
  loadWith Context.ofText read path

def Settings.load (read : FileReader m) (path : String) : ExceptT LoadFailure m Settings :=
  loadWith Settings.ofText read path

end

end BattleItems
