import BattleItems.Proofs.CatalogIssues
import BattleItems.Proofs.Draws
import BattleItems.Proofs.Calls

/-!
# BattleItems.Proofs.ValidCatalogs

Checks at load time rule out faults at run time.

For every way in which the engine can fault on data there is a check in `Catalog.issues`, so that of
a valid catalog no condition and no action is malformed. Two faults are left that are the context's.
HP above their maximum never arise from HP that are not (`Context.Treated.hpWithinMax`); a maximum
of zero stays as it is, and then only a question for a percentage of it is a fault
(`ConditionKind.NoMaxHp`).
-/

namespace BattleItems

/-! ### Messages tell faults apart -/

namespace Fault

/-- How the message of a fault begins. -/
def heading : Fault → String
  | malformedCondition _ => "Malformed condition: "
  | malformedAction _ => "Malformed action: "
  | invalidContext _ => "Invalid context: "
  | panicked _ => "Effect panicked: "

def detail : Fault → String
  | malformedCondition detail | malformedAction detail | invalidContext detail | panicked detail =>
    detail

theorem message_eq (fault : Fault) : fault.message = fault.heading ++ fault.detail := by
  cases fault <;> rfl

theorem message_inj {a b : Fault} : a.message = b.message ↔ a = b := by
  constructor
  · intro h
    rw [message_eq, message_eq, ← String.toList_inj, String.toList_append,
      String.toList_append] at h
    -- No heading is the beginning of another, so the letters differ before the details start.
    cases a <;> cases b <;> simp [heading, detail] at h <;> rw [String.toList_inj.mp h]
  · rintro rfl
    rfl

end Fault

/-! ### Conditions -/

section Conditions

variable {σ : Type} [DrawSource σ] {context : Context}

/-- A percentage of HP is asked of a creature that can have none. -/
structure ConditionKind.NoMaxHp (kind : ConditionKind) (context : Context)
    (cause : Interruption) : Prop where
  asked : ∃ comparison, kind = .hpPercentage comparison
  maxHp : context.creature.maxHp = 0
  cause : cause = .fault (.invalidContext s!"{context.creature.species} has max_hp 0")

theorem ConditionKind.holds_keeps {kind : ConditionKind} (hvalid : kind.problems = []) :
    Keeps NeverPanics (kind.NoMaxHp context) (kind.holds context : Trial σ Bool) := by
  cases kind with
  | randomChance probability =>
      have hprobability : probability.isProbability = true := by simpa [problems] using hvalid
      rw [holds, if_pos hprobability]
      exact .chance probability
  | hpPercentage comparison =>
      rw [holds]
      split
      · rename_i hzero
        exact .throw ⟨⟨comparison, rfl⟩, hzero, rfl⟩
      · exact .pure _
  | _ => exact .pure _

namespace Condition

theorem check_keeps {condition : Condition} (hvalid : condition.problems = []) :
    Keeps NeverPanics (condition.kind.NoMaxHp context)
      (condition.check context : Trial σ Verdict) := by
  obtain ⟨hprobability, hkind⟩ := problems_eq_nil_iff.mp hvalid
  have hask : Keeps NeverPanics (condition.kind.NoMaxHp context)
      (condition.ask context : Trial σ Verdict) :=
    (ConditionKind.holds_keeps hkind).bind fun _ => .pure _
  unfold check
  split
  · exact .pure _
  · exact hask
  · rename_i probability hsome _
    rw [if_pos (hprobability probability hsome)]
    refine hask.bind fun verdict => ?_
    split
    · exact (Keeps.chance probability).bind fun _ => .pure _
    · exact .pure verdict

theorem checkAll_keeps {conditions : List Condition}
    (hvalid : ∀ condition ∈ conditions, condition.problems = []) :
    Keeps NeverPanics (fun cause => ∃ condition ∈ conditions, condition.kind.NoMaxHp context cause)
      (checkAll conditions context : Trial σ Verdict) := by
  induction conditions with
  | nil => exact .pure _
  | cons condition rest ih =>
      have hfirst : Keeps NeverPanics (condition.kind.NoMaxHp context)
          (condition.check context : Trial σ Verdict) :=
        check_keeps (hvalid condition List.mem_cons_self)
      have hrest := ih fun c hc => hvalid c (List.mem_cons_of_mem _ hc)
      refine (hfirst.mono fun cause h => ⟨condition, List.mem_cons_self, h⟩).bind fun verdict => ?_
      split
      · exact hrest.mono fun cause ⟨c, hc, h⟩ => ⟨c, List.mem_cons_of_mem _ hc, h⟩
      · exact .pure verdict

end Condition

theorem Action.gate_keeps {action : Action} (hvalid : action.problems = []) :
    Keeps NeverPanics
      (fun cause => ∃ condition ∈ action.conditions, condition.kind.NoMaxHp context cause)
      (action.gate context : Trial σ Verdict) := by
  obtain ⟨hchance, hconditions, -⟩ := problems_eq_nil_iff.mp hvalid
  refine (Condition.checkAll_keeps hconditions).bind fun verdict => ?_
  split
  · split
    · exact .pure _
    · rename_i probability hsome
      rw [if_pos (hchance probability hsome)]
      exact (Keeps.chance probability).bind fun _ => .pure _
  · exact .pure verdict

end Conditions

/-! ### Changes -/

theorem Creature.restore_isOk {creature : Creature} (h : creature.hp ≤ creature.maxHp)
    (amount : UInt32) : ∃ effort after, creature.restore amount = .ok effort after := by
  simp only [restore, excessHp?, if_pos h]
  split <;> exact ⟨_, _, rfl⟩

theorem Context.onTarget_isOk {context : Context} {target : Target}
    {change : Creature → Application Creature}
    (hchange : ∀ creature, context.target? target = some creature →
      ∃ effort after, change creature = .ok effort after) :
    ∃ effort after, context.onTarget target change = .ok effort after := by
  unfold onTarget
  cases hpresent : context.target? target with
  | none => exact ⟨_, _, rfl⟩
  | some creature =>
      obtain ⟨effort, after, hok⟩ := hchange creature hpresent
      simp only [hok]
      exact ⟨_, _, rfl⟩

/-- Applied to HP that make sense, a kind without problems is no fault. -/
theorem ActionKind.apply_isOk {kind : ActionKind} {context : Context} (target : Target)
    (hvalid : kind.problems = []) (hcontext : context.HpWithinMax) :
    ∃ effort after, kind.apply target context = .ok effort after := by
  have hhp := Context.hpWithinMax_iff.mp hcontext target
  cases kind with
  | healFixed amount =>
      exact Context.onTarget_isOk fun creature hpresent =>
        Creature.restore_isOk (hhp creature hpresent) amount
  | healPercentage percent =>
      have hpercent : percent.isNonNegative = true := by simpa [problems] using hvalid
      rw [apply, if_pos hpercent]
      exact Context.onTarget_isOk fun creature hpresent =>
        Creature.restore_isOk (hhp creature hpresent) _
  | modifyCatchRate multiplier =>
      have hmultiplier : multiplier.isNonNegative = true := by simpa [problems] using hvalid
      rw [apply, if_pos hmultiplier]
      exact ⟨_, _, rfl⟩
  | cureStatus _ | boostStat _ _ | evolve _ | teachMove _ =>
      exact Context.onTarget_isOk fun creature _ => ⟨_, _, rfl⟩
  | consumeItem | showMessage _ | preventWildEncounters _ | unrecognized _ => exact ⟨_, _, rfl⟩

/-! ### Plays -/

section Plays

variable {σ α : Type} [DrawSource σ] {start : Context} {conditions : List Condition}

/-- Where a run of valid data stands. -/
structure Scene.Sound (start : Context) (scene : Scene σ) : Prop where
  treated : start.Treated scene.context
  hpWithinMax : scene.context.HpWithinMax
  source : NeverPanics scene.source

/-- One of the conditions asks for a percentage of no HP, in some context on the way. -/
def AsksForNone (conditions : List Condition) (start : Context) (cause : Interruption) : Prop :=
  ∃ condition ∈ conditions, ∃ context, start.Treated context ∧ condition.kind.NoMaxHp context cause

/-- A change by an action without problems goes through. -/
theorem Scene.Sound.change {scene : Scene σ} {action : Action} (hscene : scene.Sound start)
    (hvalid : action.problems = []) : ∃ effort after,
      Scene.change (action.kind.apply action.target) scene = .ok effort after ∧
        after.Sound start := by
  obtain ⟨effort, context, hok⟩ := ActionKind.apply_isOk action.target
    (Action.problems_eq_nil_iff.mp hvalid).2.2 hscene.hpWithinMax
  have htreated := ActionKind.apply_treated hok
  refine ⟨effort, ⟨context, scene.source⟩, by rw [Scene.change, hok], ?_⟩
  exact ⟨hscene.treated.trans htreated, htreated.hpWithinMax hscene.hpWithinMax, hscene.source⟩

namespace Keeps

/-- More conditions may be the ones that ask. -/
theorem widen {wider : List Condition} {play : Scene.Play σ α}
    (h : Keeps (Scene.Sound start) (AsksForNone conditions start) play)
    (hsub : conditions ⊆ wider) : Keeps (Scene.Sound start) (AsksForNone wider start) play := by
  refine h.mono fun cause hasked => ?_
  obtain ⟨condition, hcondition, hasked⟩ := hasked
  exact ⟨condition, hsub hcondition, hasked⟩

theorem trial {run : Context → Trial σ α}
    (hrun : ∀ context, Keeps NeverPanics
      (fun cause => ∃ condition ∈ conditions, condition.kind.NoMaxHp context cause) (run context)) :
    Keeps (Scene.Sound start) (AsksForNone conditions start) (Scene.trial run) where
  ok {scene last answer} hscene hplay := by
    unfold Scene.trial at hplay
    cases htrial : run scene.context scene.source with
    | ok _ source =>
        rw [htrial] at hplay
        cases hplay
        exact { hscene with source := (hrun _).ok hscene.source htrial }
    | error _ _ => simp [htrial] at hplay
  error {scene last cause} hscene hplay := by
    unfold Scene.trial at hplay
    cases htrial : run scene.context scene.source with
    | ok _ _ => simp [htrial] at hplay
    | error _ source =>
        rw [htrial] at hplay
        cases hplay
        obtain ⟨⟨condition, hcondition, hasked⟩, hsource⟩ := (hrun _).error hscene.source htrial
        exact ⟨⟨condition, hcondition, scene.context, hscene.treated, hasked⟩,
          { hscene with source := hsource }⟩

theorem read {allowed : Interruption → Prop} (view : Context → α) :
    Keeps (Scene.Sound start) allowed (Scene.read view : Scene.Play σ α) where
  ok hscene hplay := by
    cases hplay
    exact hscene
  error _ hplay := by cases hplay

theorem change {allowed : Interruption → Prop} {action : Action} (hvalid : action.problems = []) :
    Keeps (Scene.Sound start) allowed
      (Scene.change (action.kind.apply action.target) : Scene.Play σ Effort) where
  ok hscene hplay := by
    obtain ⟨effort, after, hchange, hafter⟩ := hscene.change hvalid
    rw [hchange] at hplay
    cases hplay
    exact hafter
  error hscene hplay := by
    obtain ⟨effort, after, hchange, _⟩ := hscene.change hvalid
    rw [hchange] at hplay
    cases hplay

end Keeps

theorem Action.execute_keeps {action : Action} (hvalid : action.problems = []) :
    Keeps (Scene.Sound start) (AsksForNone action.conditions start)
      (action.execute : Scene.Play σ ActionReport) := by
  refine (Keeps.trial fun context => gate_keeps hvalid).bind fun verdict => ?_
  cases verdict with
  | failed reason => exact .read _
  | passed => exact (Keeps.change hvalid).bind fun effort => .read _

theorem Action.executeAll_keeps {actions : List Action}
    (hvalid : ∀ action ∈ actions, action.problems = []) :
    Keeps (Scene.Sound start) (AsksForNone (actions.flatMap (·.conditions)) start)
      (executeAll actions : Scene.Play σ (List ActionReport)) := by
  induction actions with
  | nil => exact .pure []
  | cons action rest ih =>
      have hfirst : Keeps (Scene.Sound start) (AsksForNone action.conditions start)
          (action.execute : Scene.Play σ ActionReport) :=
        execute_keeps (hvalid action List.mem_cons_self)
      have hrest := ih fun a ha => hvalid a (List.mem_cons_of_mem _ ha)
      rw [List.flatMap_cons]
      refine (hfirst.widen (List.subset_append_left _ _)).bind fun report => ?_
      refine (hrest.widen (List.subset_append_right _ _)).bind fun reports => ?_
      exact .pure _

namespace Effect

/-- The conditions of the effect and of its actions. -/
def allConditions (effect : Effect) : List Condition :=
  effect.conditions ++ effect.actions.flatMap (·.conditions)

variable {effect : Effect} {ledger : Ledger} {scene after : Scene σ} {report : EffectReport}

theorem run_keeps (hvalid : effect.problems = []) :
    Keeps (Scene.Sound start) (AsksForNone effect.allConditions start)
      (effect.run ledger : Scene.Play σ EffectReport) := by
  obtain ⟨-, -, hconditions, hactions⟩ := problems_eq_nil_iff.mp hvalid
  have hcheck : Keeps (Scene.Sound start) (AsksForNone effect.conditions start)
      (Scene.trial (Condition.checkAll effect.conditions) : Scene.Play σ Verdict) :=
    .trial fun context => Condition.checkAll_keeps hconditions
  have hplay : Keeps (Scene.Sound start) (AsksForNone (effect.actions.flatMap (·.conditions)) start)
      (Action.executeAll effect.actions : Scene.Play σ (List ActionReport)) :=
    Action.executeAll_keeps hactions
  -- Both stages stop for their own conditions, so each is widened to those of the whole effect.
  refine (hcheck.widen (List.subset_append_left _ _)).bind fun verdict => ?_
  cases verdict with
  | failed reason => exact .pure _
  | passed =>
      refine (Keeps.read _).bind fun refusal? => ?_
      cases refusal? with
      | some refusal => exact .pure _
      | none =>
          refine (hplay.widen (List.subset_append_right _ _)).bind fun reports => ?_
          exact .pure _

/-- An effect that runs to its end reports no errors. -/
theorem errors_of_run_ok (h : effect.run ledger scene = .ok report after) : report.errors = [] := by
  obtain ⟨verdict, checked, -, h⟩ := bind_eq_ok_iff.mp h
  cases verdict with
  | failed reason =>
      cases h
      rfl
  | passed =>
      obtain ⟨refusal?, mid, -, h⟩ := bind_eq_ok_iff.mp h
      cases refusal? with
      | some refusal =>
          cases h
          rfl
      | none =>
          obtain ⟨reports, last, -, h⟩ := bind_eq_ok_iff.mp h
          cases h
          rfl

/-- An effect without problems, run where data are sound. -/
theorem process_sound (hvalid : effect.problems = []) (hscene : scene.Sound start)
    (hprocess : effect.process ledger scene = (report, after)) :
    after.Sound start ∧ (report.errors = [] ∨
      ∃ cause, AsksForNone effect.allConditions start cause ∧
        report = .faulted effect cause.asFault) := by
  have hkeeps : Keeps (Scene.Sound start) (AsksForNone effect.allConditions start)
      (effect.run ledger : Scene.Play σ EffectReport) := run_keeps hvalid
  rw [process] at hprocess
  cases hrun : effect.run ledger scene with
  | ok made last =>
      rw [hrun] at hprocess
      cases hprocess
      exact ⟨hkeeps.ok hscene hrun, Or.inl (errors_of_run_ok hrun)⟩
  | error cause last =>
      rw [hrun] at hprocess
      cases hprocess
      obtain ⟨hasked, hlast⟩ := hkeeps.error hscene hrun
      exact ⟨hlast, Or.inr ⟨cause, hasked, rfl⟩⟩

end Effect

/-! ### Runs -/

/-- In a run on a valid catalog a report has no error, or an effect of its call asked for a
percentage of no HP. -/
theorem Call.playAll_sound {catalog : Catalog} {calls : List (Call σ)} {report : EffectReport}
    (hvalid : catalog.issues = []) (hstart : start.HpWithinMax)
    (hdeclared : ∀ call ∈ calls, ∀ effect ∈ call.effects, catalog.Declares effect)
    (hsource : ∀ call ∈ calls, NeverPanics call.source)
    (hreport : report ∈ (playAll calls start).1) :
    report.errors = [] ∨ ∃ call ∈ calls, ∃ effect ∈ call.effects, ∃ cause,
      AsksForNone effect.allConditions start cause ∧ report = .faulted effect cause.asFault := by
  have hproblems : ∀ call ∈ calls, ∀ effect ∈ call.effects, effect.problems = [] :=
    fun call hcall effect heffect => (hdeclared call hcall effect heffect).problems_eq_nil hvalid
  obtain ⟨call, hcall, mid, hmid, hreport⟩ :=
    (treated_footprint.playAll (fun _ _ _ _ _ _ => trivial) start).2 report hreport
  -- The call stands on a context that the calls before it treated, with a source of its own.
  have hsound : Scene.Sound start ⟨mid, call.source⟩ :=
    ⟨hmid, hmid.hpWithinMax hstart, hsource call hcall⟩
  obtain ⟨-, hmade⟩ := call.play_keeps (I := Scene.Sound start)
    (fun effect heffect scene hscene =>
      (Effect.process_sound (hproblems call hcall effect heffect) hscene rfl).1) hsound
  obtain ⟨effect, heffect, scene, after, hscene, hprocess⟩ := hmade report hreport
  rcases (Effect.process_sound (hproblems call hcall effect heffect) hscene hprocess).2 with
    hnone | ⟨cause, hasked, rfl⟩
  · exact Or.inl hnone
  · exact Or.inr ⟨call, hcall, effect, heffect, cause, hasked, rfl⟩

/-- **Checks at load time rule out faults at run time.** Over any calls on effects of a valid
catalog, with sources that never panic and from a context whose HP make sense, the only error there
can be is that of a condition that asks for a percentage of HP while the maximum is zero. No data
turn out malformed, nothing panics, and a creature that can have HP meets no error at all. -/
theorem valid_catalog_runs_without_faults (catalog : Catalog) (calls : List (Call σ))
    (context : Context) (hvalid : catalog.issues = [])
    (hdeclared : ∀ call ∈ calls, ∀ effect ∈ call.effects, catalog.Declares effect)
    (hsource : ∀ call ∈ calls, NeverPanics call.source) (hcontext : context.HpWithinMax) :
    let reports := (Call.playAll calls context).1
    (∀ report ∈ reports, report.errors = [] ∨ context.creature.maxHp = 0 ∧
      ∃ call ∈ calls, ∃ effect ∈ call.effects, effect.id = report.effect ∧
        ∃ condition ∈ effect.allConditions, ∃ comparison later,
          condition.kind = .hpPercentage comparison ∧ context.Treated later ∧
          report.errors =
            [(Fault.invalidContext s!"{later.creature.species} has max_hp 0").message]) ∧
    (∀ report ∈ reports, ∀ fault : Fault, fault.message ∈ report.errors →
      ∃ detail, fault = .invalidContext detail) ∧
    (0 < context.creature.maxHp → ∀ report ∈ reports, report.errors = []) := by
  have hall : ∀ report ∈ (Call.playAll calls context).1, report.errors = [] ∨
      ∃ call ∈ calls, ∃ effect ∈ call.effects, ∃ cause,
        AsksForNone effect.allConditions context cause ∧ report = .faulted effect cause.asFault :=
    fun report => Call.playAll_sound hvalid hcontext hdeclared hsource
  refine ⟨fun report hreport => ?_, fun report hreport fault hfault => ?_,
    fun hpos report hreport => ?_⟩
  · rcases hall report hreport with hnone | ⟨call, hcall, effect, heffect, cause, hasked, rfl⟩
    · exact Or.inl hnone
    · obtain ⟨condition, hcondition, later, hlater, ⟨comparison, hkind⟩, hmaxHp, rfl⟩ := hasked
      rw [hlater.creature_treated.maxHp_eq] at hmaxHp
      exact Or.inr ⟨hmaxHp, call, hcall, effect, heffect, rfl, condition, hcondition, comparison,
        later, hkind, hlater, rfl⟩
  · rcases hall report hreport with hnone | ⟨_, _, effect, _, cause, hasked, rfl⟩
    · simp [hnone] at hfault
    · obtain ⟨_, _, later, _, _, _, rfl⟩ := hasked
      obtain rfl := Fault.message_inj.mp (List.mem_singleton.mp hfault)
      exact ⟨_, rfl⟩
  · rcases hall report hreport with hnone | ⟨_, _, effect, _, cause, hasked, rfl⟩
    · exact hnone
    · obtain ⟨_, _, later, hlater, _, hmaxHp, _⟩ := hasked
      rw [hlater.creature_treated.maxHp_eq] at hmaxHp
      simp [hmaxHp] at hpos

/-- A berry used on its own and in a batch: it heals a hurt creature once, and on a creature that
can have no HP the question before it is a fault. -/
theorem valid_catalog_runs_without_faults_berry :
    let berry : Effect := {
      id := "berry", trigger := .onLowHp, conditions := [{ kind := .hpPercentage (.less 50) }],
      actions := [{ kind := .healPercentage 25, chance := some 1 }] }
    let catalog : Catalog := ⟨[{ id := "berry", effects := [berry] }]⟩
    let calls : List (Call Pcg) :=
      [.single berry {} (.seeded 1), .batch {} [berry] .onLowHp {} (.seeded 2)]
    let hurt : Context := { creature := { hp := 10, maxHp := 40 } }
    catalog.issues = [] ∧ (∀ call ∈ calls, ∀ effect ∈ call.effects, catalog.Declares effect) ∧
      (∀ call ∈ calls, NeverPanics call.source) ∧ hurt.HpWithinMax ∧
      (∀ report ∈ (Call.playAll calls hurt).1, report.errors = []) ∧
      (Call.playAll calls hurt).1.map (·.success) = [true, false] ∧
      (Call.playAll calls {}).1.map (·.errors) =
        [["Invalid context:  has max_hp 0"], ["Invalid context:  has max_hp 0"]] := by
  intro berry catalog calls hurt
  have hvalid : catalog.issues = [] := by decide +kernel
  have hdeclared : ∀ call ∈ calls, ∀ effect ∈ call.effects, catalog.Declares effect := by
    simp [calls, Call.effects, Catalog.Declares, catalog]
  have hsource : ∀ call ∈ calls, NeverPanics call.source :=
    fun call _ => call.source.neverPanics
  have hhurt : hurt.HpWithinMax := by decide
  have hreports := valid_catalog_runs_without_faults catalog calls hurt hvalid hdeclared hsource
    hhurt
  refine ⟨hvalid, hdeclared, hsource, hhurt, hreports.2.2 (by decide), ?_, ?_⟩ <;> decide +kernel

end Plays

end BattleItems
