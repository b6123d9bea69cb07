import BattleItems.Proofs.Applications
import BattleItems.Proofs.Outcomes
import BattleItems.Proofs.Rounding

/-!
# BattleItems.Proofs.CatchRate

What becomes of the catch rate over any number of actions.

Every multiplier that is let through is an amount, but the product of amounts may round past the
largest double, and then a multiplier of zero makes it not-a-number. So over a run the modifier is
the product of the multipliers that were reported and is never below zero, and it is finite for as
long as no multiplication overflows (`Attempt.catchRate_eq_product`).
-/

namespace BattleItems

/-- The catch rate modifier of the battle that the context is in. -/
def Context.catchRate? (context : Context) : Option Binary64 :=
  context.battle.map Battle.catchRateModifier

/-- The multiplier of a change of the catch rate. -/
def Change.catchRateFactor? : Change → Option Binary64
  | .catchRate multiplier _ => some multiplier
  | _ => .none

/-- The multipliers that reports tell of, in order. -/
def catchRateFactors (reports : List ActionReport) : List Binary64 :=
  reports.filterMap fun report => report.change.catchRateFactor?

theorem catchRateFactors_append (reports others : List ActionReport) :
    catchRateFactors (reports ++ others) = catchRateFactors reports ++ catchRateFactors others :=
  List.filterMap_append

namespace Binary64

/-- Multiplying a number by the factors in order, each step rounded, never overflows. -/
def NeverOverflows : Binary64 → List Binary64 → Prop
  | _, [] => True
  | x, factor :: rest => x.ProductFits factor ∧ NeverOverflows (x * factor) rest

theorem foldl_mul_isFinite_iff {x : Binary64} {factors : List Binary64} :
    (factors.foldl (· * ·) x).isFinite = true ↔ x.isFinite = true ∧ x.NeverOverflows factors := by
  -- What is no longer finite stays so, so the last product tells of all those before it.
  induction factors generalizing x with
  | nil => simp [NeverOverflows]
  | cons factor rest ih =>
      simp only [List.foldl_cons, NeverOverflows]
      rw [ih, mul_isFinite_iff]
      constructor
      · rintro ⟨hfits, hrest⟩
        exact ⟨hfits.isFinite, hfits, hrest⟩
      · rintro ⟨-, hfits, hrest⟩
        exact ⟨hfits, hrest⟩

theorem less_zero_foldl_mul {x : Binary64} {factors : List Binary64} (hx : x.less 0 = false)
    (hfactors : ∀ factor ∈ factors, factor.IsAmount) :
    (factors.foldl (· * ·) x).less 0 = false := by
  induction factors generalizing x with
  | nil => exact hx
  | cons factor rest ih =>
      exact ih (less_zero_mul hx (hfactors factor List.mem_cons_self))
        fun other hother => hfactors other (List.mem_cons_of_mem _ hother)

theorem isAmount_one : (1 : Binary64).IsAmount := isNonNegative_iff.mp (by decide +kernel)

end Binary64

/-! ### One action -/

theorem Context.catchRate?_update (context : Context) (target : Target) (creature : Creature) :
    (context.update target creature).catchRate? = context.catchRate? := by
  cases target <;> rfl

/-- An application multiplies the modifier by the factor that it tells of, an amount that the action
declares, and leaves it alone if it tells of none. -/
theorem ActionKind.Outcome.catchRate? {kind : ActionKind} {target : Target}
    {context after : Context} {effort : Effort} {modifier : Binary64}
    (houtcome : kind.Outcome target context effort after)
    (hstart : context.catchRate? = some modifier) :
    after.catchRate? = some (effort.change.catchRateFactor?.elim modifier (modifier * ·)) ∧
      ∀ factor, effort.change.catchRateFactor? = some factor →
        factor.IsAmount ∧ kind = .modifyCatchRate factor := by
  cases houtcome with
  | failed | spent | said | repelled =>
      exact ⟨hstart, fun _ hfactor => by cases hfactor⟩
  | onCreature hpresent houtcome =>
      have hnone : effort.change.catchRateFactor? = none := by cases houtcome <;> rfl
      rw [hnone, Context.catchRate?_update]
      exact ⟨hstart, fun _ hfactor => by cases hfactor⟩
  | catchRate hbattle hkind hmultiplier htotal =>
      refine ⟨?_, fun factor hfactor => ?_⟩
      · simp only [Context.catchRate?, hbattle, Option.map_some, Option.some.injEq] at hstart
        rw [htotal, hstart]
        rfl
      · obtain rfl := Option.some.inj hfactor
        exact ⟨Binary64.isNonNegative_iff.mp hmultiplier, hkind⟩

theorem Action.catchRate?_execute {σ : Type} [DrawSource σ] {action : Action}
    {scene after : Scene σ} {report : ActionReport} {modifier : Binary64}
    (hrun : action.execute scene = .ok report after)
    (hstart : scene.context.catchRate? = some modifier) :
    after.context.catchRate? = some (report.change.catchRateFactor?.elim modifier (modifier * ·)) ∧
      ∀ factor, report.change.catchRateFactor? = some factor →
        factor.IsAmount ∧ action.kind = .modifyCatchRate factor := by
  have hend := action.execute_ending scene
  rw [hrun] at hend
  cases hend with
  | stopped _ => exact ⟨hstart, fun _ hfactor => by cases hfactor⟩
  | applied _ happly => exact (ActionKind.apply_outcome happly).catchRate? hstart

/-! ### Any number of actions -/

/-- An action that is handed over on its own, with the source of its draws. -/
structure Attempt (σ : Type) where
  action : Action
  source : σ

namespace Attempt

variable {σ : Type} [DrawSource σ]

/-- The report, unless the action is interrupted, and the context behind it. -/
def play (attempt : Attempt σ) (context : Context) : Option ActionReport × Context :=
  match attempt.action.execute ⟨context, attempt.source⟩ with
  | .ok report after => (some report, after.context)
  | .error _ after => (none, after.context)

/-- The reports of attempts in order, and the context behind them. -/
def playAll : List (Attempt σ) → Context → List ActionReport × Context
  | [], context => ([], context)
  | attempt :: rest, context =>
    let (report?, after) := attempt.play context
    let (others, last) := playAll rest after
    (report?.toList ++ others, last)

variable {context : Context} {modifier : Binary64}

/-- One attempt multiplies the modifier by what it reports, if anything. -/
theorem catchRate?_play (attempt : Attempt σ) (hstart : context.catchRate? = some modifier) :
    let factors := catchRateFactors (attempt.play context).1.toList
    (attempt.play context).2.catchRate? = some (factors.foldl (· * ·) modifier) ∧
      ∀ factor ∈ factors, factor.IsAmount ∧ attempt.action.kind = .modifyCatchRate factor := by
  simp only [play]
  cases hrun : attempt.action.execute ⟨context, attempt.source⟩ with
  | error cause after =>
      have hcontext : after.context = context := Action.context_of_execute_error hrun
      simp only [hcontext, Option.toList_none]
      exact ⟨hstart, fun _ hfactor => by cases hfactor⟩
  | ok report after =>
      obtain ⟨hafter, hdeclared⟩ := Action.catchRate?_execute hrun hstart
      have hfactors : catchRateFactors [report] = report.change.catchRateFactor?.toList := by
        cases hfactor : report.change.catchRateFactor? <;> simp [catchRateFactors, hfactor]
      simp only [Option.toList_some, hfactors]
      cases hfactor : report.change.catchRateFactor? with
      | none =>
          rw [hfactor] at hafter
          exact ⟨hafter, fun _ hmem => by cases hmem⟩
      | some factor =>
          rw [hfactor] at hafter
          refine ⟨hafter, fun other hother => ?_⟩
          obtain rfl := List.mem_singleton.mp hother
          exact hdeclared other hfactor

theorem catchRate?_playAll (attempts : List (Attempt σ))
    (hstart : context.catchRate? = some modifier) :
    let factors := catchRateFactors (playAll attempts context).1
    (playAll attempts context).2.catchRate? = some (factors.foldl (· * ·) modifier) ∧
      ∀ factor ∈ factors, factor.IsAmount ∧
        ∃ attempt ∈ attempts, attempt.action.kind = .modifyCatchRate factor := by
  induction attempts generalizing context modifier with
  | nil => exact ⟨hstart, fun _ hfactor => by cases hfactor⟩
  | cons attempt rest ih =>
      obtain ⟨hafter, hfirst⟩ := attempt.catchRate?_play hstart
      obtain ⟨hlast, hothers⟩ := ih hafter
      simp only [playAll, catchRateFactors_append, List.foldl_append]
      refine ⟨hlast, fun factor hfactor => ?_⟩
      rcases List.mem_append.mp hfactor with hmem | hmem
      · obtain ⟨hamount, hkind⟩ := hfirst factor hmem
        exact ⟨hamount, attempt, List.mem_cons_self, hkind⟩
      · obtain ⟨hamount, other, hother, hkind⟩ := hothers factor hmem
        exact ⟨hamount, other, List.mem_cons_of_mem _ hother, hkind⟩

/-- **The catch rate over a run.** Behind any number of actions on a battle that started at a
modifier of one, the modifier is the product of the multipliers that were reported; all of them are
amounts that the actions declare. It is never below zero, and it is a finite number exactly if no
multiplication on the way overflowed. -/
theorem catchRate_eq_product (attempts : List (Attempt σ)) (hstart : context.catchRate? = some 1) :
    let factors := catchRateFactors (playAll attempts context).1
    ∃ modifier, (playAll attempts context).2.catchRate? = some modifier ∧
      modifier = factors.foldl (· * ·) 1 ∧
      (∀ factor ∈ factors, factor.IsAmount ∧
        ∃ attempt ∈ attempts, attempt.action.kind = .modifyCatchRate factor) ∧
      modifier.less 0 = false ∧ (modifier.IsAmount ↔ Binary64.NeverOverflows 1 factors) := by
  intro factors
  obtain ⟨hlast, hfactors⟩ := catchRate?_playAll attempts hstart
  obtain ⟨hfinite, hsign⟩ := Binary64.isAmount_iff.mp Binary64.isAmount_one
  have hlower : (factors.foldl (· * ·) 1).less 0 = false :=
    Binary64.less_zero_foldl_mul hsign fun factor hfactor => (hfactors factor hfactor).1
  refine ⟨_, hlast, rfl, hfactors, hlower, ?_⟩
  rw [Binary64.isAmount_iff, Binary64.foldl_mul_isFinite_iff]
  constructor
  · rintro ⟨⟨-, hfits⟩, -⟩
    exact hfits
  · intro hfits
    exact ⟨⟨hfinite, hfits⟩, hlower⟩

/-- Three balls double the modifier one after another, and a ball of a negative multiplier, which is
refused, does not count. -/
theorem catchRate_eq_product_balls :
    let ball (multiplier : Binary64) : Attempt Recorded :=
      ⟨{ kind := .modifyCatchRate multiplier }, { words := [] }⟩
    let wild : Context := { battle := some {} }
    let attempts := [ball 2, ball (.ofUnits true Binary64.one 1), ball 2, ball 2]
    wild.catchRate? = some 1 ∧ catchRateFactors (playAll attempts wild).1 = [2, 2, 2] ∧
      ∃ modifier, (playAll attempts wild).2.catchRate? = some modifier ∧ modifier = 8 := by
  intro ball wild attempts
  have hstart : wild.catchRate? = some 1 := by decide +kernel
  have hfactors : catchRateFactors (playAll attempts wild).1 = [2, 2, 2] := by decide +kernel
  obtain ⟨modifier, hlast, hproduct, -⟩ := catchRate_eq_product attempts hstart
  rw [hfactors] at hproduct
  have hvalue : [2, 2, 2].foldl (· * ·) (1 : Binary64) = 8 := by decide +kernel
  exact ⟨hstart, hfactors, modifier, hlast, hproduct.trans hvalue⟩

/-- Two accepted multipliers take the modifier past the largest double, and a third one, of zero,
makes it not-a-number. -/
theorem catchRate_overflows :
    let ball (multiplier : Binary64) : Attempt Recorded :=
      ⟨{ kind := .modifyCatchRate multiplier }, { words := [] }⟩
    let wild : Context := { battle := some {} }
    let huge : Binary64 := .ofNat (Nat.pow 10 308)
    (∀ multiplier ∈ [huge, 10, 0], multiplier.isNonNegative = true) ∧
      (playAll [ball huge, ball 10] wild).2.catchRate? = some (.infinite false) ∧
      (playAll [ball huge, ball 10, ball 0] wild).2.catchRate? = some .nan := by
  decide +kernel

end Attempt

end BattleItems
