import BattleItems.Proofs.Draws

/-!
# BattleItems.Proofs.DrawCounts

How many words an effect draws.

The numbers are defined along the data: `Condition.draws` for one condition, summed up to the first
that does not pass (`Condition.listDraws`), then for an action, for a list of actions and for an
effect. Each operation that comes to its end leaves the source behind exactly that many draws; for
the effect this is `Effect.source_of_process_counted`, on a source that counts.
-/

namespace BattleItems

variable {σ : Type} [DrawSource σ]

/-! ### Sources -/

theorem skip_add (first second : Nat) (source : σ) :
    skip second (skip first source) = skip (first + second) source := by
  induction first generalizing source with
  | zero => rw [skip, Nat.zero_add]
  | succ first ih => rw [skip, ih, Nat.succ_add, skip]

/-- A source that counts moves on with the source it counts for. -/
theorem Counted.skip_eq (count : Nat) (counted : Counted σ) :
    skip count counted = ⟨skip count counted.source, counted.draws + count⟩ := by
  induction count generalizing counted with
  | zero => rfl
  | succ count ih =>
      rw [skip, ih]
      simp only [DrawSource.draw, skip, Nat.add_right_comm, Nat.add_assoc]

/-- A decision of chance draws once, whatever the probability. -/
theorem chance_ok_iff {probability : Binary64} {source after : σ} {answer : Bool} :
    chance probability source = .ok answer after ↔
      ∃ word, DrawSource.draw source = (.ok word, after) ∧
        answer = (unitInterval word).less probability := by
  unfold chance
  rcases DrawSource.draw source with ⟨panic | word, next⟩
  · simp
  · simp only [EStateM.Result.ok.injEq, Prod.mk.injEq, Except.ok.injEq]
    constructor
    · rintro ⟨hanswer, hafter⟩
      exact ⟨word, ⟨rfl, hafter⟩, hanswer.symm⟩
    · rintro ⟨_, ⟨rfl, hafter⟩, hanswer⟩
      exact ⟨hanswer.symm, hafter⟩

theorem source_of_chance_ok {probability : Binary64} {source after : σ} {answer : Bool}
    (h : chance probability source = .ok answer after) : after = skip 1 source := by
  obtain ⟨word, hdraw, -⟩ := chance_ok_iff.mp h
  rw [skip, skip, hdraw]

/-! ### Questions and conditions -/

namespace ConditionKind

/-- The draws of a question. -/
def draws : ConditionKind → Nat
  | randomChance _ => 1
  | _ => 0

/-- The answer to a question, with the next word of a source for `randomChance`. -/
def answer (kind : ConditionKind) (context : Context) (source : σ) : Bool :=
  match kind with
  | randomChance probability =>
    match DrawSource.draw source with
    | (.ok word, _) => (unitInterval word).less probability
    | (.error _, _) => false
  | _ => kind.holdsIn context

theorem holds_ok {kind : ConditionKind} {context : Context} {source after : σ} {holds : Bool}
    (h : kind.holds context source = .ok holds after) :
    holds = kind.answer context source ∧ after = skip kind.draws source := by
  cases kind with
  | randomChance probability =>
      simp only [ConditionKind.holds] at h
      split at h
      · obtain ⟨word, hdraw, hholds⟩ := chance_ok_iff.mp h
        refine ⟨?_, source_of_chance_ok h⟩
        rw [hholds, answer, hdraw]
      · cases h
  | hpPercentage comparison =>
      simp only [ConditionKind.holds] at h
      split at h
      · cases h
      · cases h
        exact ⟨rfl, rfl⟩
  | _ =>
      cases h
      exact ⟨rfl, rfl⟩

end ConditionKind

namespace Condition

/-- The answer to the question, after `negate`, is yes. -/
def isMet (condition : Condition) (context : Context) (source : σ) : Bool :=
  condition.kind.answer context source != condition.negate

/-- The draws of a condition: that of a `randomChance`, and that of a gate of chance if the answer
gets as far. A kind that is not known draws nothing. -/
def draws (condition : Condition) (context : Context) (source : σ) : Nat :=
  match condition.kind with
  | .unrecognized _ => 0
  | kind =>
    kind.draws + if condition.probability.isSome && condition.isMet context source then 1 else 0

/-- The draws of conditions up to and including the first that does not pass. -/
def listDraws (context : Context) : List Condition → σ → Nat
  | [], _ => 0
  | condition :: rest, source =>
    condition.draws context source +
      match condition.check context source with
      | .ok .passed after => listDraws context rest after
      | _ => 0

variable {condition : Condition} {conditions : List Condition} {context : Context}
  {source after : σ} {verdict : Verdict}

theorem ask_ok (h : condition.ask context source = .ok verdict after) :
    verdict.isPassed = condition.isMet context source ∧
      after = skip condition.kind.draws source := by
  obtain ⟨holds, mid, hholds, hrest⟩ := bind_eq_ok_iff.mp h
  obtain ⟨rfl, rfl⟩ := ConditionKind.holds_ok hholds
  cases hrest
  refine ⟨?_, rfl⟩
  unfold isMet
  split
  · rename_i hmet
    exact hmet.symm
  · rename_i hmet
    exact (Bool.eq_false_iff.mpr hmet).symm

theorem source_of_roll_ok {probability : Binary64}
    (h : roll probability source = .ok verdict after) : after = skip 1 source := by
  obtain ⟨passed, mid, hchance, hrest⟩ := bind_eq_ok_iff.mp h
  cases hrest
  exact source_of_chance_ok hchance

/-- A condition of a known kind asks, and goes through its gate of chance if it has one. -/
theorem check_of_known (hknown : ∀ name, condition.kind ≠ .unrecognized name) :
    (condition.check context : Trial σ Verdict) =
      match condition.probability with
      | none => condition.ask context
      | some probability =>
        if probability.isProbability then do
          let verdict ← condition.ask context
          if verdict.isPassed then roll probability else pure verdict
        else
          throw (.fault (.malformedCondition
            (Fault.notAProbability "condition probability" probability))) := by
  unfold check
  split
  · rename_i hkind
    exact absurd hkind (hknown _)
  · rename_i hnone _
    rw [hnone]
  · rename_i hsome _
    rw [hsome]

theorem draws_of_known (hknown : ∀ name, condition.kind ≠ .unrecognized name) :
    condition.draws context source = condition.kind.draws +
      if condition.probability.isSome && condition.isMet context source then 1 else 0 := by
  unfold draws
  split
  · rename_i hkind
    exact absurd hkind (hknown _)
  · rfl

theorem source_of_check_ok (h : condition.check context source = .ok verdict after) :
    after = skip (condition.draws context source) source := by
  by_cases hkind : ∃ name, condition.kind = .unrecognized name
  · obtain ⟨name, hkind⟩ := hkind
    simp only [check, hkind] at h
    cases h
    simp only [draws, hkind, skip]
  · have hknown := fun name hname => hkind ⟨name, hname⟩
    rw [check_of_known hknown] at h
    rw [draws_of_known hknown]
    cases hprobability : condition.probability with
    | none =>
        rw [hprobability] at h
        exact (ask_ok h).2
    | some probability =>
        simp only [hprobability] at h
        split at h
        · obtain ⟨answered, mid, hask, hrest⟩ := bind_eq_ok_iff.mp h
          obtain ⟨hmet, rfl⟩ := ask_ok hask
          -- The gate of chance is behind a yes only.
          cases answered with
          | passed =>
              simp only [Option.isSome_some, ← hmet, Verdict.isPassed, Bool.and_self, if_true]
              rw [← skip_add]
              exact source_of_roll_ok hrest
          | failed reason =>
              simp only [Option.isSome_some, ← hmet, Verdict.isPassed, Bool.and_false,
                Bool.false_eq_true, if_false]
              cases hrest
              rfl
        · cases h

theorem source_of_checkAll_ok (h : checkAll conditions context source = .ok verdict after) :
    after = skip (listDraws context conditions source) source := by
  -- The source moves on with the conditions, and a failure ends the sum as it ends the check.
  induction conditions generalizing source with
  | nil =>
      cases h
      rfl
  | cons condition rest ih =>
      obtain ⟨first, mid, hcheck, hrest⟩ := bind_eq_ok_iff.mp h
      simp only [listDraws, hcheck]
      cases first with
      | passed =>
          rw [← skip_add, ← source_of_check_ok hcheck]
          exact ih hrest
      | failed reason =>
          cases hrest
          exact source_of_check_ok hcheck

end Condition

/-! ### Actions -/

namespace Action

/-- The draws of an action: those of its conditions, and one for its chance if they all pass. -/
def draws (action : Action) (scene : Scene σ) : Nat :=
  Condition.listDraws scene.context action.conditions scene.source +
    match Condition.checkAll action.conditions scene.context scene.source with
    | .ok .passed _ => if action.chance.isSome then 1 else 0
    | _ => 0

/-- The draws of actions that are executed in order, each in the scene that those before it left. -/
def listDraws : List Action → Scene σ → Nat
  | [], _ => 0
  | action :: rest, scene =>
    action.draws scene +
      match action.execute scene with
      | .ok _ after => listDraws rest after
      | .error _ _ => 0

variable {action : Action} {actions : List Action} {scene after : Scene σ}

theorem source_of_gate_ok {verdict : Verdict} {source : σ}
    (h : action.gate scene.context scene.source = .ok verdict source) :
    source = skip (action.draws scene) scene.source := by
  obtain ⟨checked, mid, hcheck, hrest⟩ := bind_eq_ok_iff.mp h
  have hmid := Condition.source_of_checkAll_ok hcheck
  simp only [draws, hcheck]
  cases checked with
  | failed reason =>
      cases hrest
      exact hmid
  | passed =>
      rw [← skip_add, ← hmid]
      cases hchance : action.chance with
      | none =>
          simp only [hchance] at hrest
          cases hrest
          rfl
      | some probability =>
          simp only [hchance] at hrest
          split at hrest
          · split at hrest
            · obtain ⟨passed, last, hdraw, hlast⟩ := bind_eq_ok_iff.mp hrest
              cases hlast
              exact source_of_chance_ok hdraw
            · cases hrest
          · contradiction

theorem source_of_execute_ok {report : ActionReport} (h : action.execute scene = .ok report after) :
    after.source = skip (action.draws scene) scene.source := by
  have hend := action.execute_ending scene
  rw [h] at hend
  cases hend with
  | stopped hgate => exact source_of_gate_ok hgate
  | applied hgate _ => exact source_of_gate_ok hgate

theorem source_of_executeAll_ok {reports : List ActionReport}
    (h : executeAll actions scene = .ok reports after) :
    after.source = skip (listDraws actions scene) scene.source := by
  -- Each action is counted in the scene that it starts in, which those before it may have changed.
  induction actions generalizing scene reports with
  | nil =>
      cases h
      rfl
  | cons action rest ih =>
      obtain ⟨report, mid, others, hfirst, hrest, -⟩ := executeAll_cons_ok_iff.mp h
      simp only [listDraws, hfirst]
      rw [← skip_add, ← source_of_execute_ok hfirst]
      exact ih hrest

end Action

/-! ### Effects -/

namespace Effect

/-- The draws of an effect: those of its conditions, and those of its actions if the conditions all
pass and the restrictions let it through. -/
def draws (effect : Effect) (ledger : Ledger) (scene : Scene σ) : Nat :=
  Condition.listDraws scene.context effect.conditions scene.source +
    match Condition.checkAll effect.conditions scene.context scene.source with
    | .ok .passed source =>
      if ledger.refusal? effect scene.context.currentTurn = none then
        Action.listDraws effect.actions { scene with source }
      else 0
    | _ => 0

theorem source_of_process {effect : Effect} {ledger : Ledger} {scene after : Scene σ}
    {report : EffectReport} (h : effect.process ledger scene = (report, after))
    (herrors : report.errors = []) :
    after.source = skip (effect.draws ledger scene) scene.source := by
  cases ending_of_process h with
  | conditionsBroke _ => cases herrors
  | conditionsFailed hcheck =>
      simp only [draws, hcheck]
      exact Condition.source_of_checkAll_ok hcheck
  | refused hcheck hrefusal =>
      simp only [draws, hcheck, hrefusal]
      exact Condition.source_of_checkAll_ok hcheck
  | actionsBroke _ _ _ => cases herrors
  | completed hcheck hrefusal hactions =>
      simp only [draws, hcheck, hrefusal, if_true]
      rw [← skip_add, ← Condition.source_of_checkAll_ok hcheck]
      exact Action.source_of_executeAll_ok hactions

/-- **Exact draw counts.** An effect that reports no error draws `Effect.draws` words, no more and
no fewer: a source that counts stands that much higher afterwards, and the source it counts for is
left behind just these words. -/
theorem source_of_process_counted (effect : Effect) (ledger : Ledger) (scene : Scene (Counted σ))
    (herrors : (effect.process ledger scene).1.errors = []) :
    (effect.process ledger scene).2.source =
      ⟨skip (effect.draws ledger scene) scene.source.source,
        scene.source.draws + effect.draws ledger scene⟩ :=
  (source_of_process rfl herrors).trans (Counted.skip_eq _ _)

/-- Four words: two for a `randomChance` that is turned around and gated with certainty, one for the
chance of the first action, and one for the gate of the second, which never opens and whose question
is met only on what the first healed. -/
theorem source_of_process_counted_herb :
    let herb : Effect := {
      id := "herb", trigger := .onUse,
      conditions := [
        { kind := .randomChance 0, probability := some 1, negate := true },
        { kind := .level (.less 5), negate := true }],
      actions := [
        { kind := .healFixed 5, chance := some 1 },
        { kind := .healFixed 5,
          conditions := [
            { kind := .hpAbsolute (.equals 15), probability := some 0 },
            { kind := .randomChance 1 }] }] }
    let scene : Scene (Counted Recorded) :=
      ⟨{ creature := { level := 9, hp := 10, maxHp := 50 } },
        { source := { words := [3, 1, 4, 1, 5] }, draws := 0 }⟩
    (herb.process {} scene).1.errors = [] ∧ herb.draws {} scene = 4 ∧
      (herb.process {} scene).2.source = ⟨{ words := [5] }, 4⟩ := by
  intro herb scene
  have herrors : (herb.process {} scene).1.errors = [] := by decide +kernel
  have hdraws : herb.draws {} scene = 4 := by decide +kernel
  have hsource := source_of_process_counted herb {} scene herrors
  rw [hdraws] at hsource
  exact ⟨herrors, hdraws, hsource⟩

end Effect

end BattleItems
