import BattleItems.Binary64.Text

/-!
# BattleItems.Fault

What can go wrong inside an effect, as opposed to what merely does not happen.

A condition that does not hold, a use that a restriction refuses and an action with nothing to do
are ordinary outcomes and never appear here. What remains is catalog data outside its domain, a
context that breaks its own invariants, and a source of random draws that broke down.
-/

namespace BattleItems

/-- How grave a fault is, by how one recovers from it. -/
inductive Severity where
  | recoverable
  | validation
  | internal
  | fatal
deriving DecidableEq, Repr

namespace Severity

def name : Severity → String
  | recoverable => "recoverable"
  | validation => "validation"
  | internal => "internal"
  | fatal => "fatal"

/-- Whether the fault points at the program's state and not at its input. -/
def isInternal : Severity → Bool
  | internal | fatal => true
  | recoverable | validation => false

end Severity

/-- A fault, with the text that says what was found. -/
inductive Fault where
  /-- Condition data outside its domain, such as a probability of 1.5. -/
  | malformedCondition (detail : String)
  /-- Action data outside its domain, such as an infinite multiplier. -/
  | malformedAction (detail : String)
  /-- A context that breaks its own invariants, such as more HP than the maximum. -/
  | invalidContext (detail : String)
  /-- A panic caught at the boundary of an effect. -/
  | panicked (detail : String)
deriving DecidableEq, Repr

namespace Fault

def message : Fault → String
  | malformedCondition detail => s!"Malformed condition: {detail}"
  | malformedAction detail => s!"Malformed action: {detail}"
  | invalidContext detail => s!"Invalid context: {detail}"
  | panicked detail => s!"Effect panicked: {detail}"

/-- A fixed identifier, for sorting faults by machine. -/
def code : Fault → String
  | malformedCondition _ => "EFFECT_MALFORMED_CONDITION"
  | malformedAction _ => "EFFECT_MALFORMED_ACTION"
  | invalidContext _ => "EFFECT_INVALID_CONTEXT"
  | panicked _ => "EFFECT_PANICKED"

def severity : Fault → Severity
  | malformedCondition _ | malformedAction _ => .validation
  | invalidContext _ => .internal
  | panicked _ => .fatal

/-- The text for a number that should have been a probability. -/
def notAProbability (what : String) (value : Binary64) : String :=
  s!"{what} must be within 0.0..=1.0, got {value}"

end Fault

end BattleItems
