import BattleItems.Effect.Run
import BattleItems.Toml.Document
import BattleItems.Words

/-!
# BattleItems.Content.Settings

Settings as documents. A key that is missing keeps its default, and keys that mean nothing to the
engine are left alone.
-/

namespace BattleItems.Content

/-- A whole number that a word with sign holds. -/
def signedSetting : Toml.Entry → Option Int32
  | .value (.integer n) => signed32? n
  | _ => none

/-- The settings of a document. -/
def settings? (text : String) : Option Settings := do
  let entries ← Toml.document? text
  match entries.get? "critical_priority" with
  | none => some {}
  | some entry => do some { criticalPriority := ← signedSetting entry }

end BattleItems.Content
