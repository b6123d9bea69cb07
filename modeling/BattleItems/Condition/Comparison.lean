import BattleItems.Binary64.Text

/-!
# BattleItems.Condition.Comparison

The numeric test shared by level, friendship, stat and HP conditions.
-/

namespace BattleItems

/-- A test on a number read from the context. The bounds of a range are inclusive, and a missing
bound leaves that side open. -/
inductive Comparison where
  | equals (value : Binary64)
  | notEquals (value : Binary64)
  | greater (value : Binary64)
  | less (value : Binary64)
  | greaterEqual (value : Binary64)
  | lessEqual (value : Binary64)
  | range (lower upper : Option Binary64)
deriving DecidableEq

namespace Comparison

def between (lower upper : Binary64) : Comparison := range (some lower) (some upper)

def atLeast (lower : Binary64) : Comparison := range (some lower) none

def atMost (upper : Binary64) : Comparison := range none (some upper)

/-- Whether a number passes. Not-a-number, on either side, passes only the test for inequality; a
range tests nothing on a side without a bound. -/
def admits : Comparison → Binary64 → Bool
  | equals value, actual => actual.equals value
  | notEquals value, actual => !actual.equals value
  | greater value, actual => value.less actual
  | less value, actual => actual.less value
  | greaterEqual value, actual => value.lessEq actual
  | lessEqual value, actual => actual.lessEq value
  | range lower upper, actual => lower.all (·.lessEq actual) && upper.all actual.lessEq

/-- The bounds of a range whose lower bound lies above its upper one. -/
def invertedBounds? : Comparison → Option (Binary64 × Binary64)
  | range (some lower) (some upper) => if upper.less lower then some (lower, upper) else none
  | _ => none

/-- The test as the end of a sentence. -/
def text : Comparison → String
  | equals value => s!"= {value}"
  | notEquals value => s!"!= {value}"
  | greater value => s!"> {value}"
  | less value => s!"< {value}"
  | greaterEqual value => s!">= {value}"
  | lessEqual value => s!"<= {value}"
  | range (some lower) (some upper) => s!"between {lower} and {upper}"
  | range (some lower) none => s!">= {lower}"
  | range none (some upper) => s!"<= {upper}"
  | range none none => "any value"

instance : ToString Comparison := ⟨text⟩

end Comparison

end BattleItems
