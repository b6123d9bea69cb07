import BattleItems.Action.Basic
import BattleItems.Context

/-!
# BattleItems.Action.Template

Messages with placeholders.

A placeholder is a variable's name in braces. `Template.expand` reads the template once from left
to right. A brace that does not open the placeholder of a known variable is an ordinary character,
and reading goes on right behind it; a text that was put in for a placeholder is never read again.
-/

namespace BattleItems

namespace Template

/-- A variable's name and its value. Of two of one name the first counts. -/
abbrev Binding := String × String

/-- The value for the placeholder whose opening brace has just been read, and the length of the
placeholder's remainder. -/
def placeholder? (bindings : List Binding) (rest : List Char) : Option (List Char × Nat) :=
  let name := rest.takeWhile (· ≠ '\x7d')
  if name.length < rest.length then
    (bindings.find? fun entry => entry.1.toList = name).map fun entry =>
      (entry.2.toList, name.length + 1)
  else none

/-- The template with its placeholders filled in, where the first `skip` characters belong to a
placeholder that is already written. -/
def expand (bindings : List Binding) : (skip : Nat) → List Char → List Char
  | _, [] => []
  | skip + 1, _ :: rest => expand bindings skip rest
  | 0, c :: rest =>
    if c = '\x7b' then
      match placeholder? bindings rest with
      | some (value, length) => value ++ expand bindings length rest
      | none => c :: expand bindings 0 rest
    else c :: expand bindings 0 rest

/-- The template with its placeholders filled in. -/
def render (template : String) (bindings : List Binding) : String :=
  String.ofList (expand bindings 0 template.toList)

end Template

namespace ActionKind

/-- The parameter of an action as its author wrote it. -/
def declaredValue : ActionKind → String
  | healFixed amount => toString amount.toNat
  | healPercentage percent => percent.text
  | cureStatus (some wanted) => label wanted
  | cureStatus none => "any"
  | boostStat _ stages => toString stages.toInt
  | evolve evolution => evolution.into
  | teachMove lesson => lesson.move
  | modifyCatchRate multiplier => multiplier.text
  | consumeItem => ""
  | showMessage text => text
  | preventWildEncounters steps => toString steps.toNat
  | unrecognized kind => kind

end ActionKind

namespace Action

/-- The bindings that an action's messages may use. Where the creature aimed at is missing, the
user's takes its place. -/
def bindings (action : Action) (context : Context) : List Template.Binding :=
  let creature := (context.target? action.target).getD context.creature
  [("value", action.kind.declaredValue),
   ("species", creature.species),
   ("target", label action.target),
   ("hp", toString creature.hp.toNat),
   ("max_hp", toString creature.maxHp.toNat),
   ("trainer", context.trainer.name),
   ("location", context.overworld.location)]

/-- Fills in a template about the action. -/
def render (action : Action) (template : String) (context : Context) : String :=
  Template.render template (action.bindings context)

end Action

end BattleItems
