import BattleItems.Content.Load
import BattleItems.Proofs.EffectRuns
import BattleItems.Proofs.Failures
import BattleItems.Proofs.UsageLimits
import BattleItems.Proofs.ValidCatalogs

/-!
# BattleItems.Proofs.RestrictedActs

How often a restricted effect acts.

The ledger counts the successes that are reported, but what players notice is that an effect *acts*:
that it changes the context (`EffectRun.Acts`). A run without errors that acts is a success, so
over a battle the restrictions bound such runs as they bound uses. A run that ends in an error keeps
what its earlier actions did and is no use, and nothing bounds how often that happens. On a valid
catalog it takes a creature that can have no HP and an action that asks for its percentage of them
(`Effect.GatesOnShare`).
-/

namespace BattleItems

/-- One of the actions is gated by a percentage of HP. -/
def Effect.GatesOnShare (effect : Effect) : Prop :=
  ∃ action ∈ effect.actions, ∃ condition ∈ action.conditions, ∃ comparison,
    condition.kind = .hpPercentage comparison

/-- A number of times is within the limits on uses. -/
structure Restrictions.Allows (restrictions : Restrictions) (times : Nat) : Prop where
  once : restrictions.oncePerBattle = true → times ≤ 1
  maxUses : ∀ max, restrictions.maxUses = some max → times ≤ max.toNat

theorem Restrictions.KeptBy.allows {restrictions : Restrictions} {turns : List UInt32}
    (h : restrictions.KeptBy turns) {times : Nat} (hle : times ≤ turns.length) :
    restrictions.Allows times where
  once honce := hle.trans (h.once honce)
  maxUses max hmax := hle.trans (h.maxUses max hmax)

variable {σ : Type} [DrawSource σ]

/-! ### One run of an effect -/

namespace EffectRun

/-- The run changes the context. -/
def Acts (run : EffectRun σ) : Prop := run.after.context ≠ run.before.context

instance (run : EffectRun σ) : Decidable run.Acts :=
  inferInstanceAs (Decidable (run.after.context ≠ run.before.context))

variable {run : EffectRun σ}

/-- A run that acts and reports no error reports a success. -/
theorem success_of_acts (hacts : run.Acts) (herrors : run.report.errors = []) :
    run.report.success = true := by
  by_contra hfailed
  rw [Bool.not_eq_true] at hfailed
  exact hacts (Effect.context_of_process_failed run.process_eq hfailed herrors)

/-- A run on valid data that acts and reports an error was interrupted by an action's question for a
percentage of no HP. -/
theorem gatesOnShare_of_acts {start : Context} (hvalid : run.effect.problems = [])
    (hsound : run.before.Sound start) (hacts : run.Acts) (herrors : run.report.errors ≠ []) :
    start.creature.maxHp = 0 ∧ run.effect.GatesOnShare := by
  obtain ⟨-, -, hconditions, hactions⟩ := Effect.problems_eq_nil_iff.mp hvalid
  have hend := Effect.ending_of_process run.process_eq
  unfold Acts at hacts
  generalize run.report = report at hend herrors
  generalize run.after = after at hend hacts
  cases hend with
  | conditionsFailed _ | refused _ _ | completed _ _ _ => exact absurd rfl herrors
  | conditionsBroke _ => exact absurd rfl hacts
  | @actionsBroke cause source _ hcheck _ hbroke =>
      -- The conditions only draw, so the actions start from the same context.
      have hchecked : Scene.Sound start ⟨run.before.context, source⟩ :=
        ⟨hsound.treated, hsound.hpWithinMax,
          (Condition.checkAll_keeps hconditions).ok hsound.source hcheck⟩
      obtain ⟨⟨condition, hcondition, context, htreated, hasked⟩, -⟩ :=
        (Action.executeAll_keeps hactions).error hchecked hbroke
      obtain ⟨action, haction, hcondition⟩ := List.mem_flatMap.mp hcondition
      refine ⟨?_, action, haction, condition, hcondition, hasked.asked⟩
      rw [← htreated.creature_treated.maxHp_eq]
      exact hasked.maxHp

end EffectRun

/-! ### Rounds -/

namespace Round

/-- A round on an item of a catalog, in a context whose HP make sense and with a source that never
panics. -/
structure IsOn (catalog : Catalog) (round : Round σ) : Prop where
  item : ∃ item ∈ catalog.items, round.effects = item.effects
  hpWithinMax : round.scene.context.HpWithinMax
  source : NeverPanics round.scene.source

/-- The effects that a round runs. -/
def runs (round : Round σ) (ledger : Ledger) : List (EffectRun σ) :=
  Batch.runs round.settings ledger (Batch.selected round.effects round.trigger) round.scene

/-- The effects that are run through rounds that start from a ledger. -/
def runsThrough (ledger : Ledger) : List (Round σ) → List (EffectRun σ)
  | [] => []
  | round :: rest => round.runs ledger ++ runsThrough (round.settle ledger) rest

variable {catalog : Catalog} {round : Round σ} {rounds : List (Round σ)} {ledger : Ledger}
  {effect : Effect}

theorem map_report_runs (round : Round σ) (ledger : Ledger) :
    (round.runs ledger).map (·.report) = (round.play ledger).1 :=
  Batch.map_report_runs ..

theorem IsOn.declares (h : round.IsOn catalog) (heffect : effect ∈ round.effects) :
    catalog.Declares effect := by
  obtain ⟨item, hitem, heffects⟩ := h.item
  exact ⟨item, hitem, heffects ▸ heffect⟩

theorem IsOn.nodup_ids (h : round.IsOn catalog) (hvalid : catalog.issues = []) :
    (round.effects.map (·.id)).Nodup := by
  obtain ⟨item, hitem, heffects⟩ := h.item
  rw [heffects]
  exact Catalog.nodup_ids_of_mem hvalid hitem

theorem IsOn.start_sound (h : round.IsOn catalog) :
    Scene.Sound round.scene.context round.scene :=
  ⟨.refl _, h.hpWithinMax, h.source⟩

/-- The effects of a round on a valid catalog leave sound data sound. -/
theorem IsOn.process_sound {start : Context} (h : round.IsOn catalog) (hvalid : catalog.issues = [])
    (ledger : Ledger) (heffect : effect ∈ round.effects) (scene : Scene σ)
    (hscene : scene.Sound start) : (effect.process ledger scene).2.Sound start :=
  (Effect.process_sound ((h.declares heffect).problems_eq_nil hvalid) hscene rfl).1

/-- In a round on a valid catalog every effect is run on sound data. -/
theorem IsOn.sound (h : round.IsOn catalog) (hvalid : catalog.issues = []) :
    ∀ run ∈ round.runs ledger, run.effect.problems = [] ∧
      run.before.Sound round.scene.context := by
  intro run hrun
  obtain ⟨hmem, hbefore⟩ := Batch.runs_keep (I := Scene.Sound round.scene.context)
    (fun effect heffect => h.process_sound hvalid ledger (Batch.mem_selected.mp heffect).1)
    h.start_sound run hrun
  exact ⟨(h.declares (Batch.mem_selected.mp hmem).1).problems_eq_nil hvalid, hbefore⟩

/-- A round may go on in the scene that another on the same catalog left. -/
theorem IsOn.next {next : Round σ} (h : round.IsOn catalog) (hvalid : catalog.issues = [])
    (hitem : ∃ item ∈ catalog.items, next.effects = item.effects)
    (hscene : next.scene = (round.play ledger).2) : next.IsOn catalog := by
  have hleft : (round.play ledger).2.Sound round.scene.context :=
    (Batch.process_keeps (I := Scene.Sound round.scene.context) round.settings round.trigger ledger
      (fun effect heffect => h.process_sound hvalid ledger heffect) h.start_sound).1
  rw [← hscene] at hleft
  exact ⟨hitem, hleft.hpWithinMax, hleft.source⟩

/-- In one round an effect acts without an error only where a use of it is recorded. -/
theorem countP_acts_le_usesIn (round : Round σ) (ledger : Ledger) (effect : Effect)
    (turn : UInt32) :
    (round.runs ledger).countP
        (fun run => run.report.errors = [] ∧ run.effect = effect ∧ run.Acts) ≤
      (Ledger.usesIn effect.id turn (round.play ledger).1).length := by
  calc (round.runs ledger).countP
        (fun run => run.report.errors = [] ∧ run.effect = effect ∧ run.Acts)
      ≤ (round.runs ledger).countP
          ((fun report => report.success ∧ report.effect = effect.id) ∘ (·.report)) := by
        refine List.countP_mono_left fun run _ h => ?_
        obtain ⟨herrors, rfl, hacts⟩ := of_decide_eq_true h
        simp [EffectRun.success_of_acts hacts herrors, run.report_effect]
    _ = (Ledger.usesIn effect.id turn (round.play ledger).1).length := by
        rw [Ledger.usesIn, List.length_map, ← List.countP_eq_length_filter, ← map_report_runs,
          List.countP_map]

/-- Through any rounds an effect acts without an error at most as often as it is used. -/
theorem countP_acts_le_usesThrough (ledger : Ledger) (rounds : List (Round σ)) (effect : Effect) :
    (runsThrough ledger rounds).countP
        (fun run => run.report.errors = [] ∧ run.effect = effect ∧ run.Acts) ≤
      (usesThrough effect.id ledger rounds).length := by
  induction rounds generalizing ledger with
  | nil => exact Nat.le_refl 0
  | cons round rest ih =>
      rw [runsThrough, usesThrough, List.countP_append, List.length_append]
      exact Nat.add_le_add (round.countP_acts_le_usesIn ledger effect _) (ih _)

/-- Runs through rounds on a valid catalog are on sound data each. -/
theorem sound_of_mem_runsThrough (hvalid : catalog.issues = [])
    (hrounds : ∀ round ∈ rounds, round.IsOn catalog) :
    ∀ run ∈ runsThrough ledger rounds, run.effect.problems = [] ∧
      ∃ round ∈ rounds, run.before.Sound round.scene.context := by
  induction rounds generalizing ledger with
  | nil => simp [runsThrough]
  | cons round rest ih =>
      intro run hrun
      rw [List.forall_mem_cons] at hrounds
      rcases List.mem_append.mp hrun with hfirst | hrest
      · obtain ⟨hproblems, hsound⟩ := hrounds.1.sound hvalid run hfirst
        exact ⟨hproblems, round, List.mem_cons_self, hsound⟩
      · obtain ⟨hproblems, later, hlater, hsound⟩ := ih hrounds.2 run hrest
        exact ⟨hproblems, later, List.mem_cons_of_mem _ hlater, hsound⟩

/-- **Restricted effects act within their limits, but for faults.** Over any rounds on a valid
catalog that start from an empty ledger, the runs of an effect that act and report no error are
within its limits on uses. A run that acts and ends in an error is on a creature that can have no
HP, at an action that asks for its percentage of them; so where every creature can have HP, all runs
that act are within the limits. -/
theorem restricted_effect_acts_within_limits (catalog : Catalog) (rounds : List (Round σ))
    (effect : Effect) (hvalid : catalog.issues = []) (hdeclared : catalog.Declares effect)
    (hrounds : ∀ round ∈ rounds, round.IsOn catalog) :
    let acts := (runsThrough {} rounds).filter fun run => run.effect = effect ∧ run.Acts
    effect.restrictions.Allows (acts.countP (·.report.errors = [])) ∧
      (∀ run ∈ acts, run.report.errors ≠ [] →
        run.before.context.creature.maxHp = 0 ∧ effect.GatesOnShare) ∧
      ((∀ round ∈ rounds, 0 < round.scene.context.creature.maxHp) →
        effect.restrictions.Allows acts.length) := by
  intro acts
  have hkept : effect.restrictions.KeptBy (usesThrough effect.id {} rounds) := by
    -- A valid catalog declares an id once, so the restrictions are the same in every round.
    have h := keptBy_usesThrough (fun round hround => (hrounds round hround).nodup_ids hvalid)
      (fun round hround other hother hid =>
        congrArg Effect.restrictions
          (((hrounds round hround).declares hother).eq_of_id_eq hvalid hdeclared hid))
      (Ledger.reflects_empty effect.id) effect.restrictions.keptBy_nil
    rwa [List.nil_append] at h
  have hcount : acts.countP (·.report.errors = []) ≤ (usesThrough effect.id {} rounds).length := by
    rw [List.countP_filter]
    simpa using countP_acts_le_usesThrough {} rounds effect
  have herrors : ∀ run ∈ acts, run.report.errors ≠ [] → ∃ round ∈ rounds,
      run.before.Sound round.scene.context ∧ round.scene.context.creature.maxHp = 0 ∧
        effect.GatesOnShare := by
    intro run hrun hne
    obtain ⟨hmem, hfiltered⟩ := List.mem_filter.mp hrun
    obtain ⟨rfl, hacts⟩ := of_decide_eq_true hfiltered
    obtain ⟨hproblems, round, hround, hsound⟩ := sound_of_mem_runsThrough hvalid hrounds run hmem
    exact ⟨round, hround, hsound, run.gatesOnShare_of_acts hproblems hsound hacts hne⟩
  refine ⟨hkept.allows hcount, fun run hrun hne => ?_, fun hpos => hkept.allows ?_⟩
  · obtain ⟨round, -, hsound, hzero, hgates⟩ := herrors run hrun hne
    exact ⟨hsound.treated.creature_treated.maxHp_eq.trans hzero, hgates⟩
  · have hall : acts.countP (·.report.errors = []) = acts.length := by
      refine List.countP_eq_length.mpr fun run hrun => decide_eq_true ?_
      by_contra hne
      obtain ⟨round, hround, -, hzero, -⟩ := herrors run hrun hne
      have h := hpos round hround
      simp [hzero] at h
    rwa [← hall]

/-- A syrup that works twice per battle, used on a creature that stays hurt: the third round is no
longer let through. -/
theorem restricted_effect_acts_within_limits_syrup :
    let syrup : Effect := {
      id := "syrup", trigger := .onUse, restrictions := { maxUses := some 2 },
      actions := [{ kind := .healFixed 5, conditions := [{ kind := .hpPercentage (.less 50) }] }] }
    let catalog : Catalog := ⟨[{ id := "syrup", effects := [syrup] }]⟩
    let hurt : Context := { creature := { hp := 1, maxHp := 40 } }
    let first : Round Pcg := ⟨[syrup], .onUse, {}, ⟨hurt, .seeded 1⟩⟩
    let second : Round Pcg := ⟨[syrup], .onUse, {}, (first.play {}).2⟩
    let third : Round Pcg := ⟨[syrup], .onUse, {}, (second.play (first.settle {})).2⟩
    let rounds := [first, second, third]
    catalog.issues = [] ∧ catalog.Declares syrup ∧ (∀ round ∈ rounds, round.IsOn catalog) ∧
      (∀ round ∈ rounds, 0 < round.scene.context.creature.maxHp) ∧
      (runsThrough {} rounds).map (fun run => decide run.Acts) = [true, true, false] ∧
      syrup.restrictions.Allows
        ((runsThrough {} rounds).filter fun run => run.effect = syrup ∧ run.Acts).length := by
  intro syrup catalog hurt first second third rounds
  have hvalid : catalog.issues = [] := by decide +kernel
  have hitem : ∃ item ∈ catalog.items, [syrup] = item.effects := ⟨_, List.mem_cons_self, rfl⟩
  have hdeclared : catalog.Declares syrup := ⟨_, List.mem_cons_self, List.mem_cons_self⟩
  have hfirst : first.IsOn catalog := ⟨hitem, by decide, Pcg.neverPanics _⟩
  have hsecond : second.IsOn catalog := hfirst.next hvalid hitem rfl
  have hthird : third.IsOn catalog := hsecond.next hvalid hitem rfl
  have hrounds : ∀ round ∈ rounds, round.IsOn catalog := by
    simp [rounds, hfirst, hsecond, hthird]
  have hpos : ∀ round ∈ rounds, 0 < round.scene.context.creature.maxHp := by decide +kernel
  have hlimits := restricted_effect_acts_within_limits catalog rounds syrup hvalid hdeclared hrounds
  exact ⟨hvalid, hdeclared, hrounds, hpos, by decide +kernel, hlimits.2.2 hpos⟩

/-- A balm that works once per battle heals the opponent and then asks for the percentage of HP of a
user that can have none. The fault keeps the healing and is no use, so the balm heals again in the
next round. -/
theorem faulted_effect_acts_again :
    let balm : Effect := {
      id := "balm", trigger := .onUse,
      restrictions := { oncePerBattle := true, maxUses := some 1 },
      actions := [{ kind := .healFixed 5, target := .opponent },
        { kind := .consumeItem, conditions := [{ kind := .hpPercentage (.less 50) }] }] }
    let catalog : Catalog := ⟨[{ id := "balm", effects := [balm] }]⟩
    let context : Context := { opponent := some { hp := 10, maxHp := 50 } }
    let first : Round Pcg := ⟨[balm], .onUse, {}, ⟨context, .seeded 1⟩⟩
    let second : Round Pcg := ⟨[balm], .onUse, {}, (first.play {}).2⟩
    let acts := (runsThrough {} [first, second]).filter fun run => run.effect = balm ∧ run.Acts
    catalog.issues = [] ∧ catalog.Declares balm ∧
      Context.ofText "(opponent: Some((hp: 10, max_hp: 50)))" = .ok context ∧
      (∀ round ∈ [first, second], round.IsOn catalog) ∧
      acts.map (·.report.success) = [false, false] ∧
      ¬(balm.restrictions.oncePerBattle = true → acts.length ≤ 1) ∧
      ¬∀ max, balm.restrictions.maxUses = some max → acts.length ≤ max.toNat := by
  intro balm catalog context first second acts
  have hvalid : catalog.issues = [] := by decide +kernel
  have hitem : ∃ item ∈ catalog.items, [balm] = item.effects := ⟨_, List.mem_cons_self, rfl⟩
  have hfirst : first.IsOn catalog := ⟨hitem, by decide, Pcg.neverPanics _⟩
  have hsecond : second.IsOn catalog := hfirst.next hvalid hitem rfl
  have hrounds : ∀ round ∈ [first, second], round.IsOn catalog := by simp [hfirst, hsecond]
  have hacts : acts.length = 2 := by decide +kernel
  refine ⟨hvalid, ⟨_, List.mem_cons_self, List.mem_cons_self⟩, by decide +kernel, hrounds,
    by decide +kernel, fun honce => ?_, fun hmax => ?_⟩
  · have h := honce rfl
    omega
  · have h := hmax 1 rfl
    rw [hacts] at h
    contradiction

end Round

end BattleItems
