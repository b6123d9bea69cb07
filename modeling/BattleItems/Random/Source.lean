import BattleItems.Fault

/-!
# BattleItems.Random.Source

Where random decisions come from.

Every decision left to chance takes one 32 bit word from a *source*. A source is any state with a
`draw`; it may panic instead of answering, and the state it leaves behind then still counts. All
that the engine does with chance is written over an arbitrary source, so what is proved of the
engine holds for every generator, recorded stream or adversary.

`Trial σ` is a computation that draws from a source of type `σ` and may be interrupted, by a fault
of its own or by a panic of the source. The state survives an interruption: nothing is rolled back.
-/

namespace BattleItems

/-- What a panicking source left behind: a text, or nothing that can be read. -/
structure Panic where
  message? : Option String
deriving DecidableEq, Repr

namespace Panic

def text (panic : Panic) : String := panic.message?.getD "unknown panic"

end Panic

/-- A state from which 32 bit words can be drawn. -/
class DrawSource (σ : Type) where
  /-- The next word or a panic, and the state after it. -/
  draw : σ → Except Panic UInt32 × σ

/-- Why a computation stopped before its answer. -/
inductive Interruption where
  | fault (cause : Fault)
  | panic (cause : Panic)
deriving DecidableEq, Repr

namespace Interruption

/-- The fault under which an interruption is reported at the boundary of an effect. -/
def asFault : Interruption → Fault
  | fault cause => cause
  | panic cause => .panicked cause.text

end Interruption

/-- A computation that draws from a source and may be interrupted. -/
abbrev Trial (σ α : Type) := EStateM Interruption σ α

/-- The draw as a number from zero to below one: the word over `2³²`. -/
def unitInterval (word : UInt32) : Binary64 :=
  Binary64.ofNat word.toNat / Binary64.ofNat UInt32.size

/-- Draws once and succeeds with the given probability. One draw is spent whatever the probability,
so that gates of zero and one advance the source like any other. -/
def chance {σ : Type} [DrawSource σ] (probability : Binary64) : Trial σ Bool := fun source =>
  match DrawSource.draw source with
  | (.ok word, source) => .ok ((unitInterval word).less probability) source
  | (.error panic, source) => .error (.panic panic) source

/-- A source that counts the draws made from it, one that panicked included. -/
structure Counted (σ : Type) where
  source : σ
  draws : Nat

instance {σ : Type} [DrawSource σ] : DrawSource (Counted σ) where
  draw counted :=
    let (word, source) := DrawSource.draw counted.source
    (word, { source, draws := counted.draws + 1 })

/-- A recorded stream of words, and the panic that meets a draw past its end. -/
structure Recorded where
  words : List UInt32
  exhausted : Panic := ⟨some "rng exhausted"⟩
deriving DecidableEq, Repr

instance : DrawSource Recorded where
  draw recorded :=
    match recorded.words with
    | [] => (.error recorded.exhausted, recorded)
    | word :: words => (.ok word, { recorded with words })

end BattleItems
