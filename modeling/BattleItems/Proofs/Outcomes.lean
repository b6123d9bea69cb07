import BattleItems.Effect.Run
import BattleItems.Proofs.Applications

/-!
# BattleItems.Proofs.Outcomes

What running an action, a list of actions, and an effect can come to.

Each operation has one inversion lemma that names its endings and says all there is to say about
them: which gates were passed, what was applied, and in what scene the run was left. Everything
later is read off these endings (`Action.execute_ending`, `Action.executeAll_error_iff`,
`Effect.ending_of_process`), never off the code of the operations.
-/

namespace BattleItems

variable {σ : Type} [DrawSource σ]

/-! ### Sequencing -/

section Sequencing

variable {s α β : Type} {first : EStateM Interruption s α} {next : α → EStateM Interruption s β}
  {start last : s} {answer : β} {cause : Interruption}

theorem bind_eq_ok_iff :
    (first >>= next) start = .ok answer last ↔
      ∃ a mid, first start = .ok a mid ∧ next a mid = .ok answer last := by
  simp only [bind, EStateM.bind]
  cases first start <;> simp [and_assoc]

theorem bind_eq_error_iff :
    (first >>= next) start = .error cause last ↔
      first start = .error cause last ∨
        ∃ a mid, first start = .ok a mid ∧ next a mid = .error cause last := by
  simp only [bind, EStateM.bind]
  cases first start <;> simp [and_assoc]

end Sequencing

/-! ### One action -/

namespace Action

/-- The endings of an action that is run in a scene. Only the last of them changes the context. -/
inductive Ending (action : Action) (scene : Scene σ) :
    EStateM.Result Interruption (Scene σ) ActionReport → Prop
  /-- The gate was interrupted: by a fault of its own or by a panic of the source. -/
  | gateBroke {cause : Interruption} {source : σ}
      (hgate : action.gate scene.context scene.source = .error cause source) :
      Ending action scene (.error cause { scene with source })
  | stopped {reason : String} {source : σ}
      (hgate : action.gate scene.context scene.source = .ok (.failed reason) source) :
      Ending action scene (.ok (action.stopped reason scene.context) { scene with source })
  | faulted {fault : Fault} {after : Context} {source : σ}
      (hgate : action.gate scene.context scene.source = .ok .passed source)
      (happly : action.kind.apply action.target scene.context = .error fault after) :
      Ending action scene (.error (.fault fault) ⟨after, source⟩)
  | applied {effort : Effort} {after : Context} {source : σ}
      (hgate : action.gate scene.context scene.source = .ok .passed source)
      (happly : action.kind.apply action.target scene.context = .ok effort after) :
      Ending action scene (.ok (action.report effort after) ⟨after, source⟩)

/-- Running an action comes to one of its endings. -/
theorem execute_ending (action : Action) (scene : Scene σ) :
    action.Ending scene (action.execute scene) := by
  simp only [execute, bind, EStateM.bind, Scene.trial]
  cases hgate : action.gate scene.context scene.source with
  | error cause source => exact .gateBroke hgate
  | ok verdict source =>
      cases verdict with
      | failed reason => exact .stopped hgate
      | passed =>
          cases happly : action.kind.apply action.target scene.context with
          | error fault after =>
              simp only [EStateM.bind, Scene.change, happly]
              exact .faulted hgate happly
          | ok effort after =>
              simp only [EStateM.bind, Scene.change, happly]
              exact .applied hgate happly

/-- An action that is interrupted leaves the context as it found it. -/
theorem context_of_execute_error {action : Action} {scene after : Scene σ}
    {cause : Interruption} (h : action.execute scene = .error cause after) :
    after.context = scene.context := by
  have hend := action.execute_ending scene
  rw [h] at hend
  cases hend with
  | gateBroke _ => rfl
  | faulted _ happly => exact ActionKind.eq_of_apply_error happly

/-- Behind a gate that it has passed, an action does nothing but apply its kind. -/
theorem execute_of_gate {action : Action} {scene : Scene σ} {source : σ}
    (hgate : action.gate scene.context scene.source = .ok .passed source) :
    action.execute scene =
      match action.kind.apply action.target scene.context with
      | .ok effort after => .ok (action.report effort after) ⟨after, source⟩
      | .error fault after => .error (.fault fault) ⟨after, source⟩ := by
  have hend := action.execute_ending scene
  generalize action.execute scene = ending at hend ⊢
  cases hend with
  | gateBroke hbroke => cases hgate.symm.trans hbroke
  | stopped hstopped => cases hgate.symm.trans hstopped
  | faulted hpassed happly =>
      cases hgate.symm.trans hpassed
      rw [happly]
  | applied hpassed happly =>
      cases hgate.symm.trans hpassed
      rw [happly]

/-- If it aims at a creature that is there, this creature is changed and nothing else. -/
theorem execute_of_creatureChange? {action : Action} {scene : Scene σ} {source : σ}
    {change : Creature → Application Creature} {creature later : Creature}
    {effort : Effort} (hchange : action.kind.creatureChange? = some change)
    (hgate : action.gate scene.context scene.source = .ok .passed source)
    (hpresent : scene.context.target? action.target = some creature)
    (hresult : change creature = .ok effort later) :
    let after := scene.context.update action.target later
    action.execute scene = .ok (action.report effort after) ⟨after, source⟩ := by
  rw [execute_of_gate hgate, ActionKind.apply_of_creatureChange? hchange hpresent, hresult]
  rfl

/-- An action without gates of its own: no conditions and no chance. -/
structure IsUngated (action : Action) : Prop where
  conditions : action.conditions = []
  chance : action.chance = none

theorem IsUngated.gate_eq {action : Action} (hungated : action.IsUngated) (context : Context)
    (source : σ) : action.gate context source = .ok .passed source := by
  simp only [gate, hungated.conditions, hungated.chance]
  rfl

/-- Without gates an action does nothing but apply its kind, and leaves the source alone. -/
theorem execute_of_isUngated {action : Action} (hungated : action.IsUngated) (scene : Scene σ) :
    action.execute scene =
      match action.kind.apply action.target scene.context with
      | .ok effort after => .ok (action.report effort after) { scene with context := after }
      | .error fault after => .error (.fault fault) { scene with context := after } :=
  execute_of_gate (hungated.gate_eq scene.context scene.source)

namespace IsUngated

variable {action : Action} {scene after : Scene σ}

theorem source_of_execute_ok {report : ActionReport} (hungated : action.IsUngated)
    (h : action.execute scene = .ok report after) : after.source = scene.source := by
  rw [execute_of_isUngated hungated] at h
  split at h <;> cases h
  rfl

theorem source_of_execute_error {cause : Interruption} (hungated : action.IsUngated)
    (h : action.execute scene = .error cause after) : after.source = scene.source := by
  rw [execute_of_isUngated hungated] at h
  split at h <;> cases h
  rfl

end IsUngated

/-! ### A list of actions -/

theorem executeAll_cons_ok_iff {action : Action} {rest : List Action} {scene last : Scene σ}
    {reports : List ActionReport} :
    executeAll (action :: rest) scene = .ok reports last ↔
      ∃ report mid others, action.execute scene = .ok report mid ∧
        executeAll rest mid = .ok others last ∧ reports = report :: others := by
  simp only [executeAll, bind_eq_ok_iff]
  constructor
  · rintro ⟨report, mid, hfirst, others, _, hrest, heq⟩
    obtain ⟨rfl, rfl⟩ := EStateM.Result.ok.inj heq
    exact ⟨report, mid, others, hfirst, hrest, rfl⟩
  · rintro ⟨report, mid, others, hfirst, hrest, rfl⟩
    exact ⟨report, mid, hfirst, others, last, hrest, rfl⟩

/-- Two lists one behind the other. -/
theorem executeAll_append {first second : List Action} {scene mid last : Scene σ}
    {reports others : List ActionReport} (hfirst : executeAll first scene = .ok reports mid)
    (hsecond : executeAll second mid = .ok others last) :
    executeAll (first ++ second) scene = .ok (reports ++ others) last := by
  induction first generalizing scene reports with
  | nil =>
      cases hfirst
      exact hsecond
  | cons action rest ih =>
      obtain ⟨report, next, behind, haction, hrest, rfl⟩ := executeAll_cons_ok_iff.mp hfirst
      exact executeAll_cons_ok_iff.mpr ⟨report, next, behind ++ others, haction, ih hrest, rfl⟩

theorem executeAll_singleton_ok_iff {action : Action} {scene last : Scene σ}
    {report : ActionReport} :
    executeAll [action] scene = .ok [report] last ↔ action.execute scene = .ok report last := by
  rw [executeAll_cons_ok_iff]
  constructor
  · rintro ⟨_, _, _, haction, hnil, heq⟩
    cases hnil
    cases heq
    exact haction
  · intro h
    exact ⟨report, last, [], h, rfl, rfl⟩

theorem executeAll_cons_error_iff {action : Action} {rest : List Action} {scene last : Scene σ}
    {cause : Interruption} :
    executeAll (action :: rest) scene = .error cause last ↔
      action.execute scene = .error cause last ∨
        ∃ report mid, action.execute scene = .ok report mid ∧
          executeAll rest mid = .error cause last := by
  simp only [executeAll, bind_eq_error_iff]
  constructor
  · rintro (hfirst | ⟨report, mid, hfirst, hrest | ⟨_, _, _, hpure⟩⟩)
    · exact Or.inl hfirst
    · exact Or.inr ⟨report, mid, hfirst, hrest⟩
    · cases hpure
  · rintro (hfirst | ⟨report, mid, hfirst, hrest⟩)
    · exact Or.inl hfirst
    · exact Or.inr ⟨report, mid, hfirst, Or.inl hrest⟩

/-- A list of actions is interrupted exactly where one of its actions is: those before it ran to
their end, and those behind it did not run at all. -/
theorem executeAll_error_iff {actions : List Action} {scene last : Scene σ}
    {cause : Interruption} :
    executeAll actions scene = .error cause last ↔
      ∃ before broken rest reports mid, actions = before ++ broken :: rest ∧
        executeAll before scene = .ok reports mid ∧ broken.execute mid = .error cause last := by
  -- The scene moves on with the actions, and the first of them is the broken one or joins `before`.
  induction actions generalizing scene with
  | nil =>
      constructor
      · intro h
        cases h
      · rintro ⟨before, broken, rest, _, _, heq, _⟩
        simp at heq
  | cons action actions ih =>
      rw [executeAll_cons_error_iff]
      constructor
      · rintro (hfirst | ⟨report, mid, hfirst, hrest⟩)
        · exact ⟨[], action, actions, [], scene, rfl, rfl, hfirst⟩
        · obtain ⟨before, broken, rest, reports, mid', rfl, hbefore, hbroken⟩ := ih.mp hrest
          exact ⟨action :: before, broken, rest, report :: reports, mid', rfl,
            executeAll_cons_ok_iff.mpr ⟨report, mid, reports, hfirst, hbefore, rfl⟩, hbroken⟩
      · rintro ⟨before, broken, rest, reports, mid, heq, hbefore, hbroken⟩
        cases before with
        | nil =>
            obtain ⟨rfl, rfl⟩ := List.cons.inj heq
            cases hbefore
            exact Or.inl hbroken
        | cons first before =>
            obtain ⟨rfl, rfl⟩ := List.cons.inj heq
            obtain ⟨report, mid', others, hfirst, hothers, -⟩ := executeAll_cons_ok_iff.mp hbefore
            exact Or.inr ⟨report, mid', hfirst,
              ih.mpr ⟨before, broken, rest, others, mid, rfl, hothers, hbroken⟩⟩

end Action

/-! ### One effect -/

namespace Effect

/-- The endings of an effect that is run in a scene. -/
inductive Ending (effect : Effect) (ledger : Ledger) (scene : Scene σ) :
    EffectReport → Scene σ → Prop
  /-- A condition of the effect was interrupted. -/
  | conditionsBroke {cause : Interruption} {source : σ}
      (hcheck : Condition.checkAll effect.conditions scene.context scene.source =
        .error cause source) :
      Ending effect ledger scene (.faulted effect cause.asFault) { scene with source }
  | conditionsFailed {reason : String} {source : σ}
      (hcheck : Condition.checkAll effect.conditions scene.context scene.source =
        .ok (.failed reason) source) :
      Ending effect ledger scene (.rejected effect.id reason) { scene with source }
  | refused {refusal : Refusal} {source : σ}
      (hcheck : Condition.checkAll effect.conditions scene.context scene.source =
        .ok .passed source)
      (hrefusal : ledger.refusal? effect scene.context.currentTurn = some refusal) :
      Ending effect ledger scene (.rejected effect.id refusal.message) { scene with source }
  /-- An action was interrupted. -/
  | actionsBroke {cause : Interruption} {source : σ} {after : Scene σ}
      (hcheck : Condition.checkAll effect.conditions scene.context scene.source =
        .ok .passed source)
      (hrefusal : ledger.refusal? effect scene.context.currentTurn = none)
      (hactions : Action.executeAll effect.actions { scene with source } = .error cause after) :
      Ending effect ledger scene (.faulted effect cause.asFault) after
  | completed {source : σ} {reports : List ActionReport} {after : Scene σ}
      (hcheck : Condition.checkAll effect.conditions scene.context scene.source =
        .ok .passed source)
      (hrefusal : ledger.refusal? effect scene.context.currentTurn = none)
      (hactions : Action.executeAll effect.actions { scene with source } = .ok reports after) :
      Ending effect ledger scene (effect.completed reports) after

variable {effect : Effect} {ledger : Ledger} {scene after : Scene σ} {report : EffectReport}

/-- Running an effect comes to one of its endings. -/
theorem ending_of_process (h : effect.process ledger scene = (report, after)) :
    effect.Ending ledger scene report after := by
  simp only [process, run, bind, EStateM.bind, Scene.trial] at h
  cases hcheck : Condition.checkAll effect.conditions scene.context scene.source with
  | error cause source =>
      simp only [hcheck] at h
      cases h
      exact .conditionsBroke hcheck
  | ok verdict source =>
      simp only [hcheck] at h
      cases verdict with
      | failed reason =>
          cases h
          exact .conditionsFailed hcheck
      | passed =>
          cases hrefusal : ledger.refusal? effect scene.context.currentTurn with
          | some refusal =>
              simp only [EStateM.bind, Scene.read, hrefusal] at h
              cases h
              exact .refused hcheck hrefusal
          | none =>
              cases hactions : Action.executeAll effect.actions { scene with source } with
              | error cause last =>
                  simp only [EStateM.bind, Scene.read, hrefusal, hactions] at h
                  cases h
                  exact .actionsBroke hcheck hrefusal hactions
              | ok reports last =>
                  simp only [EStateM.bind, Scene.read, hrefusal, hactions] at h
                  cases h
                  exact .completed hcheck hrefusal hactions

/-- A report carries the id of its effect, however the effect ended. -/
theorem process_effect (effect : Effect) (ledger : Ledger) (scene : Scene σ) :
    (effect.process ledger scene).1.effect = effect.id := by
  rcases h : effect.process ledger scene with ⟨report, after⟩
  cases ending_of_process h <;> rfl

/-- A use is reported as a success only if the restrictions let it through. -/
theorem refusal?_of_process_success (h : effect.process ledger scene = (report, after))
    (hsuccess : report.success = true) :
    ledger.refusal? effect scene.context.currentTurn = none := by
  cases ending_of_process h with
  | completed _ hrefusal _ => exact hrefusal
  | _ => simp [EffectReport.rejected, EffectReport.faulted] at hsuccess

end Effect

end BattleItems
