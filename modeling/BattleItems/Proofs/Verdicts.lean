import BattleItems.Proofs.DrawCounts
import BattleItems.Proofs.Gates

/-!
# BattleItems.Proofs.Verdicts

What a list of conditions means.

A list is a conjunction in order. It passes if its conditions pass in turn, each with the source
that the one before it left (`Condition.PassInTurn`), and otherwise it comes to what the first
condition comes to that does not pass, a failure or an interruption (`Condition.IsStop`).

A single condition is a question, turned around by `negate`, behind which a gate of chance may
stand. The order is fixed, so turning a condition around changes its verdict and nothing else
(`Condition.check_negated`), and a gate adds one draw to a pass and nothing to a failure
(`Condition.check_withProbability`).
-/

namespace BattleItems

theorem Verdict.isSome_reason?_iff (verdict : Verdict) :
    verdict.reason?.isSome = true ↔ verdict.isPassed = false := by
  cases verdict <;> simp [reason?, isPassed]

namespace Condition

variable {σ : Type} {condition : Condition} {conditions rest : List Condition} {context : Context}
  {source mid after : σ} {answer : EStateM.Result Interruption σ Verdict}
  {first next : Trial σ Verdict}

/-! ### Lists of conditions -/

/-- What a check comes to that does not pass: a failure with its reason, or an interruption. -/
def IsStop (answer : EStateM.Result Interruption σ Verdict) : Prop :=
  ∀ after, answer ≠ .ok .passed after

theorem passed_or_isStop (answer : EStateM.Result Interruption σ Verdict) :
    (∃ after, answer = .ok .passed after) ∨ IsStop answer := by
  by_cases h : ∃ after, answer = .ok .passed after
  · exact Or.inl h
  · exact Or.inr fun after heq => h ⟨after, heq⟩

/-- What is guarded by a check is run behind a pass, with the source that the check left. -/
theorem guarded_of_passed (hpassed : first source = .ok .passed mid) :
    (do let verdict ← first; if verdict.isPassed then next else pure verdict) source =
      next mid := by
  simp only [bind, EStateM.bind, hpassed]
  rfl

/-- What is guarded by a check is not run if the check does not pass. -/
theorem guarded_of_isStop (hstop : IsStop answer) (hfirst : first source = answer) :
    (do let verdict ← first; if verdict.isPassed then next else pure verdict) source =
      answer := by
  simp only [bind, EStateM.bind, hfirst]
  cases answer with
  | error cause after => rfl
  | ok verdict after =>
      cases verdict with
      | passed => exact absurd rfl (hstop after)
      | failed reason => rfl

variable [DrawSource σ]

/-- Conditions that pass in turn, each with the source that the one before it left. -/
inductive PassInTurn (context : Context) : List Condition → σ → σ → Prop
  | nil {source : σ} : PassInTurn context [] source source
  | cons {condition : Condition} {rest : List Condition} {source mid after : σ}
      (hpasses : condition.check context source = .ok .passed mid)
      (hrest : PassInTurn context rest mid after) :
      PassInTurn context (condition :: rest) source after

theorem checkAll_cons_of_passed (hpasses : condition.check context source = .ok .passed mid) :
    checkAll (condition :: rest) context source = checkAll rest context mid :=
  guarded_of_passed hpasses

theorem checkAll_cons_of_isStop (hstop : IsStop answer)
    (hcheck : condition.check context source = answer) :
    checkAll (condition :: rest) context source = answer :=
  guarded_of_isStop hstop hcheck

/-- A list passes if its conditions pass in turn. -/
theorem checkAll_passed_iff :
    checkAll conditions context source = .ok .passed after ↔
      PassInTurn context conditions source after := by
  induction conditions generalizing source with
  | nil =>
      constructor
      · intro h
        cases h
        exact .nil
      · intro h
        cases h
        rfl
  | cons condition rest ih =>
      constructor
      · intro h
        rcases passed_or_isStop (condition.check context source) with ⟨mid, hpasses⟩ | hstop
        · rw [checkAll_cons_of_passed hpasses] at h
          exact .cons hpasses (ih.mp h)
        · rw [checkAll_cons_of_isStop hstop rfl] at h
          exact absurd h (hstop after)
      · intro h
        cases h with
        | cons hpasses hrest =>
            rw [checkAll_cons_of_passed hpasses]
            exact ih.mpr hrest

/-- A list that does not pass comes to what its first condition comes to that does not pass. -/
theorem checkAll_isStop_iff (hstop : IsStop answer) :
    checkAll conditions context source = answer ↔
      ∃ before stopper rest mid, conditions = before ++ stopper :: rest ∧
        PassInTurn context before source mid ∧ stopper.check context mid = answer := by
  -- The first condition is the one that stops the list, or it passes and joins `before`.
  induction conditions generalizing source with
  | nil =>
      constructor
      · intro h
        exact absurd h.symm (hstop source)
      · rintro ⟨before, stopper, rest, mid, heq, -, -⟩
        simp at heq
  | cons condition conditions ih =>
      rcases passed_or_isStop (condition.check context source) with ⟨mid, hpasses⟩ | hfirst
      · rw [checkAll_cons_of_passed hpasses, ih]
        constructor
        · rintro ⟨before, stopper, rest, last, rfl, hbefore, hstopper⟩
          exact ⟨condition :: before, stopper, rest, last, rfl, .cons hpasses hbefore, hstopper⟩
        · rintro ⟨before, stopper, rest, last, heq, hbefore, hstopper⟩
          cases hbefore with
          | nil =>
              obtain ⟨rfl, rfl⟩ := List.cons.inj heq
              exact absurd (hstopper.symm.trans hpasses) (hstop mid)
          | cons hpasses' hbefore =>
              obtain ⟨rfl, rfl⟩ := List.cons.inj heq
              rw [hpasses] at hpasses'
              cases hpasses'
              exact ⟨_, stopper, rest, last, rfl, hbefore, hstopper⟩
      · rw [checkAll_cons_of_isStop hfirst rfl]
        constructor
        · intro h
          exact ⟨[], condition, conditions, source, rfl, .nil, h⟩
        · rintro ⟨before, stopper, rest, last, heq, hbefore, hstopper⟩
          cases hbefore with
          | nil =>
              obtain ⟨rfl, rfl⟩ := List.cons.inj heq
              exact hstopper
          | cons hpasses _ =>
              obtain ⟨rfl, rfl⟩ := List.cons.inj heq
              exact absurd hpasses (hfirst _)

/-! ### One condition -/

/-- Turning a question around turns its verdict around. -/
theorem ask_negated (condition : Condition) (context : Context) :
    (condition.negated.ask context : Trial σ Verdict) = (do
      let verdict ← condition.ask context
      pure (if verdict.isPassed then .failed condition.negated.refusal else .passed)) := by
  simp only [ask, bind_assoc, pure_bind]
  refine bind_congr fun holds => ?_
  cases hnegate : condition.negate <;> cases holds <;> simp [negated, hnegate, Verdict.isPassed]

/-- Turning a condition around turns its verdict around; an interruption and the draws are those of
the question either way. -/
theorem check_negated (hknown : ∀ name, condition.kind ≠ .unrecognized name)
    (hprobability : condition.probability = none) :
    (condition.negated.check context : Trial σ Verdict) = (do
      let verdict ← condition.check context
      pure (if verdict.isPassed then .failed condition.negated.refusal else .passed)) := by
  have hplain : (condition.check context : Trial σ Verdict) = condition.ask context := by
    rw [check_of_known hknown, hprobability]
  have hturned : (condition.negated.check context : Trial σ Verdict) =
      condition.negated.ask context := by
    have hknown' : ∀ name, condition.negated.kind ≠ .unrecognized name := hknown
    rw [check_of_known hknown']
    simp only [negated, hprobability]
  rw [hplain, hturned, ask_negated]

/-- A gate of chance passes or fails as one draw says. -/
theorem roll_eq (probability : Binary64) (source : σ) :
    roll probability source =
      match chance probability source with
      | .ok true after => .ok .passed after
      | .ok false after =>
        .ok (.failed ("Chance roll failed (" ++ probability.percentText ++ "% chance)")) after
      | .error cause after => .error cause after := by
  simp only [roll, bind, EStateM.bind]
  cases chance probability source with
  | error cause after => rfl
  | ok passed after => cases passed <;> rfl

/-- A gate of chance is tried behind a pass, and a failure stays as it is. -/
theorem check_withProbability {probability : Binary64}
    (hknown : ∀ name, condition.kind ≠ .unrecognized name)
    (hprobability : condition.probability = none) (hvalid : probability.isProbability = true) :
    ((condition.withProbability probability).check context : Trial σ Verdict) = (do
      let verdict ← condition.check context
      if verdict.isPassed then roll probability else pure verdict) := by
  have hplain : (condition.check context : Trial σ Verdict) = condition.ask context := by
    rw [check_of_known hknown, hprobability]
  have hknown' : ∀ name, (condition.withProbability probability).kind ≠ .unrecognized name :=
    hknown
  rw [hplain, check_of_known hknown']
  simp only [withProbability, hvalid, if_true]
  rfl

theorem check_of_unrecognized {name : String} (hkind : condition.kind = .unrecognized name) :
    condition.check context source =
      .ok (.failed ("Unknown condition kind: " ++ name)) source := by
  simp only [check, hkind]
  rfl

/-! ### What conditions mean -/

/-- **The meaning of conditions.** A list passes if its conditions pass in turn, and otherwise comes
to what the first condition comes to that does not pass; hence of two lists behind each other the
second is checked if the first one passes. A verdict has a reason if it is no pass.

Of a known condition without a gate, turning it around turns the verdict around and keeps an
interruption and the source, and a gate of chance leaves what does not pass as it is and makes a
pass the outcome of one more draw. A condition of an unknown kind fails and draws nothing. -/
theorem checkAll_meaning (context : Context) :
    (∀ (conditions : List Condition) (source after : σ),
      checkAll conditions context source = .ok .passed after ↔
        PassInTurn context conditions source after) ∧
    (∀ (conditions : List Condition) (source : σ) answer, IsStop answer →
      (checkAll conditions context source = answer ↔
        ∃ before stopper rest mid, conditions = before ++ stopper :: rest ∧
          PassInTurn context before source mid ∧ stopper.check context mid = answer)) ∧
    (∀ (first second : List Condition) (source : σ),
      checkAll (first ++ second) context source =
        match checkAll first context source with
        | .ok .passed mid => checkAll second context mid
        | answer => answer) ∧
    (∀ verdict : Verdict, verdict.reason?.isSome = true ↔ verdict.isPassed = false) ∧
    (∀ (condition : Condition) (source : σ), (∀ name, condition.kind ≠ .unrecognized name) →
      condition.probability = none →
      (∀ verdict after, condition.check context source = .ok verdict after →
        ∃ turned, condition.negated.check context source = .ok turned after ∧
          turned.isPassed = !verdict.isPassed) ∧
      (∀ cause after, condition.check context source = .error cause after →
        condition.negated.check context source = .error cause after) ∧
      ∀ probability : Binary64, probability.isProbability = true →
        (∀ answer, IsStop answer → condition.check context source = answer →
          (condition.withProbability probability).check context source = answer) ∧
        ∀ after, condition.check context source = .ok .passed after →
          (condition.withProbability probability).check context source =
            match chance probability after with
            | .ok true last => .ok .passed last
            | .ok false last =>
              .ok (.failed ("Chance roll failed (" ++ probability.percentText ++ "% chance)")) last
            | .error cause last => .error cause last) ∧
    ∀ (condition : Condition) name (source : σ), condition.kind = .unrecognized name →
      condition.check context source =
        .ok (.failed ("Unknown condition kind: " ++ name)) source := by
  refine ⟨fun _ _ _ => checkAll_passed_iff, fun _ _ _ => checkAll_isStop_iff,
    fun first second source => ?_, Verdict.isSome_reason?_iff,
    fun condition source hknown hnone => ⟨fun verdict after h => ?_, fun cause after h => ?_,
      fun probability hvalid => ⟨fun answer hstop h => ?_, fun after h => ?_⟩⟩,
    fun _ _ _ => check_of_unrecognized⟩
  · rw [checkAll_append]
    rcases passed_or_isStop (checkAll first context source) with ⟨mid, hpassed⟩ | hstop
    · rw [guarded_of_passed hpassed, hpassed]
    · rw [guarded_of_isStop hstop rfl]
      split
      · rename_i mid hpassed
        exact absurd hpassed (hstop mid)
      · rfl
  · rw [check_negated hknown hnone]
    simp only [bind, EStateM.bind, h]
    exact ⟨_, rfl, by cases verdict <;> rfl⟩
  · rw [check_negated hknown hnone]
    simp only [bind, EStateM.bind, h]
  · rw [check_withProbability hknown hnone hvalid]
    exact guarded_of_isStop hstop h
  · rw [check_withProbability hknown hnone hvalid, guarded_of_passed h]
    exact roll_eq probability after

/-- A coin, alone, turned around and behind a gate that never opens, and a question that nobody
knows, which fails although it is turned around and let through with certainty. -/
theorem checkAll_meaning_coin :
    let context : Context := { creature := { species := "eevee", hp := 10, maxHp := 20 } }
    let coin : Condition := { kind := .randomChance (1 / 2) }
    let moon : Condition :=
      { kind := .unrecognized "moon", probability := some 1, negate := true }
    let words (draws : List UInt32) : Recorded := { words := draws }
    PassInTurn context [coin, coin.negated] (words [7, 0xffffffff]) (words []) ∧
      checkAll [coin, moon, coin] context (words [7, 8]) =
        .ok (.failed "Unknown condition kind: moon") (words [8]) ∧
      (∃ turned, coin.negated.check context (words [7]) = .ok turned (words []) ∧
        turned.isPassed = false) ∧
      (coin.withProbability 0).check context (words [7, 8, 9]) =
        .ok (.failed "Chance roll failed (0% chance)") (words [9]) := by
  intro context coin moon words
  obtain ⟨-, hstopped, -, -, hsingle, hunknown⟩ :=
    checkAll_meaning (σ := Recorded) context
  have hvalid : (1 / 2 : Binary64).isProbability = true := by decide +kernel
  have hflip : ∀ word rest, coin.check context (words (word :: rest)) =
      .ok (if (unitInterval word).less (1 / 2) then .passed else .failed coin.refusal)
        (words rest) := by
    intro word rest
    simp [check, coin, ask, ConditionKind.holds, hvalid, chance, DrawSource.draw, words, bind,
      EStateM.bind, pure, EStateM.pure]
  have hheads : ∀ rest, coin.check context (words (7 :: rest)) = .ok .passed (words rest) := by
    intro rest
    have hlow : (unitInterval 7).less (1 / 2) = true := by decide +kernel
    simp only [hflip, hlow, if_true]
  have htails : coin.check context (words [0xffffffff]) =
      .ok (.failed coin.refusal) (words []) := by
    have hhigh : (unitInterval 0xffffffff).less (1 / 2) = false := by decide +kernel
    simp only [hflip, hhigh, Bool.false_eq_true, if_false]
  have hmoon := fun draws => hunknown moon "moon" (words draws) rfl
  have hknown : ∀ name, coin.kind ≠ .unrecognized name := by simp [coin]
  have hcoin := fun source => hsingle coin source hknown rfl
  refine ⟨?_, ?_, (hcoin _).1 _ _ (hheads []), ?_⟩
  · -- Turned around, the coin passes on tails.
    obtain ⟨turned, hcheck, hpasses⟩ := (hcoin _).1 _ _ htails
    cases turned with
    | passed => exact .cons (hheads _) (.cons hcheck .nil)
    | failed reason => cases hpasses
  · exact (hstopped [coin, moon, coin] _ _ (by simp [IsStop])).mpr
      ⟨[coin], moon, [coin], words [8], rfl, .cons (hheads [8]) .nil, hmoon [8]⟩
  · have hzero : (0 : Binary64).isProbability = true := by decide +kernel
    have hnever : (unitInterval 8).less 0 = false := by decide +kernel
    have htext : (0 : Binary64).percentText = "0" := by decide +kernel
    rw [((hcoin _).2.2 0 hzero).2 _ (hheads [8, 9])]
    simp only [chance, DrawSource.draw, words, hnever, htext]
    rfl

end Condition

end BattleItems
