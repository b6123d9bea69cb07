import BattleItems.Effect.Basic

/-!
# BattleItems.Catalog.Basic

Catalogs: the items of a content pack, each with its effects.
-/

namespace BattleItems

/-- One item and the effects that it carries. -/
structure Item where
  id : String
  name : Option String := none
  effects : List Effect
deriving DecidableEq

namespace Item

/-- The name shown to players, or the id where there is none. -/
def displayName (item : Item) : String := item.name.getD item.id

/-- Adds the triggers of effects behind those already met, each once. -/
def addTriggers (met : List Trigger) : List Effect → List Trigger
  | [] => met
  | effect :: rest =>
    addTriggers (if effect.trigger ∈ met then met else met ++ [effect.trigger]) rest

/-- The triggers that the item responds to, in the order of their first declaration. -/
def triggers (item : Item) : List Trigger := addTriggers [] item.effects

end Item

structure Catalog where
  items : List Item
deriving DecidableEq

namespace Catalog

/-- The first item with the given id. -/
def find? (catalog : Catalog) (id : String) : Option Item := catalog.items.find? (·.id = id)

end Catalog

end BattleItems
