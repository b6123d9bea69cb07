import BattleItems.Random.Pcg
import BattleItems.Proofs.Outcomes

/-!
# BattleItems.Proofs.Draws

Sources that never panic, and runs that keep an invariant and stop for known causes only.

`Keeps` is a predicate on computations that may be interrupted. It is closed under sequencing, so
for a computation of the engine it follows the computation's own steps. Over sources the invariant
is that they never panic; then all that can stop a computation are faults of its own.
-/

namespace BattleItems

/-! ### Sources -/

section Sources

variable {σ : Type} [DrawSource σ]

/-- The source behind a number of draws. -/
def skip : Nat → σ → σ
  | 0, source => source
  | n + 1, source => skip n (DrawSource.draw source).2

/-- However much was drawn before, the next draw gives a word. -/
def NeverPanics (source : σ) : Prop :=
  ∀ n, ∃ word, (DrawSource.draw (skip n source)).1 = .ok word

theorem NeverPanics.draw {source : σ} (h : NeverPanics source) :
    ∃ word next, DrawSource.draw source = (.ok word, next) ∧ NeverPanics next := by
  obtain ⟨word, hword⟩ := h 0
  exact ⟨word, (DrawSource.draw source).2, Prod.ext hword rfl, fun n => h (n + 1)⟩

/-- A source all of whose states give a word. -/
theorem neverPanics_of_total (htotal : ∀ state : σ, ∃ word, (DrawSource.draw state).1 = .ok word)
    (source : σ) : NeverPanics source := fun n => htotal (skip n source)

end Sources

theorem Pcg.neverPanics (generator : Pcg) : NeverPanics generator :=
  neverPanics_of_total (fun state => ⟨state.next.1, rfl⟩) generator

/-! ### Runs -/

/-- The run keeps an invariant of the state, whether it ends or is stopped, and only what is allowed
stops it. -/
structure Keeps {s α : Type} (I : s → Prop) (allowed : Interruption → Prop)
    (run : EStateM Interruption s α) : Prop where
  ok {start last : s} {answer : α} : I start → run start = .ok answer last → I last
  error {start last : s} {cause : Interruption} : I start → run start = .error cause last →
    allowed cause ∧ I last

namespace Keeps

variable {s α β : Type} {I : s → Prop} {allowed wider : Interruption → Prop}
  {run : EStateM Interruption s α}

theorem pure (answer : α) : Keeps I allowed (pure answer : EStateM Interruption s α) where
  ok hstart hrun := by
    cases hrun
    exact hstart
  error _ hrun := by cases hrun

theorem throw {cause : Interruption} (h : allowed cause) :
    Keeps I allowed (throw cause : EStateM Interruption s α) where
  ok _ hrun := by cases hrun
  error hstart hrun := by
    cases hrun
    exact ⟨h, hstart⟩

theorem bind {next : α → EStateM Interruption s β} (hfirst : Keeps I allowed run)
    (hnext : ∀ answer, Keeps I allowed (next answer)) : Keeps I allowed (run >>= next) where
  ok hstart hrun := by
    obtain ⟨answer, mid, hmid, hrest⟩ := bind_eq_ok_iff.mp hrun
    exact (hnext answer).ok (hfirst.ok hstart hmid) hrest
  error hstart hrun := by
    rcases bind_eq_error_iff.mp hrun with hstop | ⟨answer, mid, hmid, hrest⟩
    · exact hfirst.error hstart hstop
    · exact (hnext answer).error (hfirst.ok hstart hmid) hrest

theorem mono (h : Keeps I allowed run) (himp : ∀ cause, allowed cause → wider cause) :
    Keeps I wider run where
  ok := h.ok
  error hstart hrun := by
    obtain ⟨hallowed, hlast⟩ := h.error hstart hrun
    exact ⟨himp _ hallowed, hlast⟩

/-- A draw is no reason to stop. -/
theorem chance {σ : Type} [DrawSource σ] (probability : Binary64) :
    Keeps NeverPanics allowed (BattleItems.chance probability : Trial σ Bool) where
  ok hsource hrun := by
    obtain ⟨word, next, hdraw, hnext⟩ := hsource.draw
    unfold BattleItems.chance at hrun
    rw [hdraw] at hrun
    obtain ⟨-, rfl⟩ := EStateM.Result.ok.inj hrun
    exact hnext
  error hsource hrun := by
    obtain ⟨word, next, hdraw, _⟩ := hsource.draw
    unfold BattleItems.chance at hrun
    rw [hdraw] at hrun
    cases hrun

end Keeps

end BattleItems
