import BattleItems.Proofs.Footprint

/-!
# BattleItems.Proofs.Commutation

Actions on different creatures do not meet.

An action that changes a creature reads that creature alone, and its messages may tell of nothing
else but the trainer and the location. So it does not notice when another creature is put in the
place of the other one (`Action.ActsOn.execute_update`), and neither does a list of such actions.
Lists on the two creatures can then be run in either order.
-/

namespace BattleItems

variable {σ : Type}

/-- Puts a creature in the place of the one aimed at. -/
def Scene.update (scene : Scene σ) (target : Target) (creature : Creature) : Scene σ :=
  { scene with context := scene.context.update target creature }

theorem Scene.update_comm {target other : Target} (h : other ≠ target) (scene : Scene σ)
    (creature another : Creature) :
    (scene.update target creature).update other another =
      (scene.update other another).update target creature := by
  simp only [update, Context.update_comm h]

namespace Action

/-- An action on one creature: it aims at it, is of a kind that changes creatures, and has no gates
of its own. -/
structure ActsOn (action : Action) (target : Target) : Prop where
  aims : action.target = target
  changes : action.kind.tag ∈
    [.healFixed, .healPercentage, .cureStatus, .boostStat, .evolve, .teachMove]
  ungated : action.IsUngated

/-- Messages do not tell of the creature that is not aimed at. -/
theorem report_update_of_ne {action : Action} {other : Target} {context : Context}
    {creature : Creature} (hother : other ≠ action.target)
    (hpresent : context.target? action.target = some creature) (effort : Effort)
    (another : Creature) :
    action.report effort (context.update other another) = action.report effort context := by
  have hbindings : action.bindings (context.update other another) = action.bindings context := by
    simp only [bindings, Context.target?_update_of_ne context another hother.symm, hpresent,
      Option.getD_some]
    cases other <;> rfl
  simp only [report, render, hbindings]

variable [DrawSource σ] {action : Action} {actions first second : List Action}
  {target other : Target} {scene after afterFirst afterSecond : Scene σ} {report : ActionReport}
  {reports others : List ActionReport} {creature : Creature}

/-! ### One action -/

namespace ActsOn

/-- The creature aimed at is changed, and nothing else. -/
theorem execute_ok_iff (hacts : action.ActsOn target)
    (hpresent : scene.context.target? target = some creature) :
    action.execute scene = .ok report after ↔
      ∃ change effort later, action.kind.creatureChange? = some change ∧
        change creature = .ok effort later ∧ after = scene.update target later ∧
        report = action.report effort after.context := by
  obtain ⟨rfl, hchanges, hungated⟩ := hacts
  obtain ⟨change, hchange⟩ :=
    Option.isSome_iff_exists.mp (ActionKind.isSome_creatureChange?_iff.mpr hchanges)
  rw [execute_of_isUngated hungated, ActionKind.apply_of_creatureChange? hchange hpresent]
  constructor
  · intro h
    cases hresult : change creature with
    | error fault later => simp [hresult, Application.mapState] at h
    | ok effort later =>
        simp only [hresult, Application.mapState, EStateM.Result.ok.injEq] at h
        obtain ⟨rfl, rfl⟩ := h
        exact ⟨change, effort, later, hchange, hresult, rfl, rfl⟩
  · rintro ⟨change', effort, later, hchange', hresult, rfl, rfl⟩
    obtain rfl := Option.some.inj (hchange.symm.trans hchange')
    simp only [hresult, Application.mapState]
    rfl

/-- An action does not notice the creature that it does not aim at. -/
theorem execute_update (hacts : action.ActsOn target) (hother : other ≠ target)
    (hpresent : scene.context.target? target = some creature)
    (hrun : action.execute scene = .ok report after) (another : Creature) :
    action.execute (scene.update other another) = .ok report (after.update other another) := by
  obtain ⟨change, effort, later, hchange, hresult, rfl, rfl⟩ :=
    (hacts.execute_ok_iff hpresent).mp hrun
  have hpresent' : (scene.update other another).context.target? target = some creature := by
    rw [Scene.update, Context.target?_update_of_ne _ _ hother.symm, hpresent]
  refine (hacts.execute_ok_iff hpresent').mpr
    ⟨change, effort, later, hchange, hresult, Scene.update_comm hother .., ?_⟩
  obtain rfl := hacts.aims
  exact (report_update_of_ne hother (Context.target?_update_self ..) effort another).symm

end ActsOn

/-! ### Lists of actions -/

/-- A list of actions on a creature leaves the scene with another creature in that place. -/
theorem exists_update_of_executeAll (hacts : ∀ action ∈ actions, action.ActsOn target)
    (hpresent : scene.context.target? target = some creature)
    (hrun : executeAll actions scene = .ok reports after) :
    ∃ later, after = scene.update target later := by
  induction actions generalizing scene reports creature with
  | nil =>
      cases hrun
      exact ⟨creature, by rw [Scene.update, Context.update_of_target? hpresent]⟩
  | cons action rest ih =>
      obtain ⟨hfirst, hrest⟩ := List.forall_mem_cons.mp hacts
      obtain ⟨report, mid, others, hexecute, hbehind, -⟩ := executeAll_cons_ok_iff.mp hrun
      obtain ⟨-, -, next, -, -, rfl, -⟩ := (hfirst.execute_ok_iff hpresent).mp hexecute
      obtain ⟨later, rfl⟩ := ih hrest (Context.target?_update_self ..) hbehind
      exact ⟨later, by cases target <;> rfl⟩

/-- A list of actions on a creature does not notice the other creature. -/
theorem executeAll_update (hacts : ∀ action ∈ actions, action.ActsOn target)
    (hother : other ≠ target) (hpresent : scene.context.target? target = some creature)
    (hrun : executeAll actions scene = .ok reports after) (another : Creature) :
    executeAll actions (scene.update other another) =
      .ok reports (after.update other another) := by
  induction actions generalizing scene reports creature with
  | nil =>
      cases hrun
      rfl
  | cons action rest ih =>
      obtain ⟨hfirst, hrest⟩ := List.forall_mem_cons.mp hacts
      obtain ⟨report, mid, others, hexecute, hbehind, rfl⟩ := executeAll_cons_ok_iff.mp hrun
      have hmoved := hfirst.execute_update hother hpresent hexecute another
      obtain ⟨-, -, next, -, -, rfl, -⟩ := (hfirst.execute_ok_iff hpresent).mp hexecute
      exact executeAll_cons_ok_iff.mpr ⟨report, _, others, hmoved,
        ih hrest (Context.target?_update_self ..) hbehind, rfl⟩

/-- Lists of actions on different creatures can be run in either order: each of them reports what
it reports alone, and each creature becomes what it becomes alone. -/
theorem executeAll_append_comm (hfirst : ∀ action ∈ first, action.ActsOn target)
    (hsecond : ∀ action ∈ second, action.ActsOn other) (hother : other ≠ target)
    (hpresent : ∀ place, (scene.context.target? place).isSome = true)
    (hrunFirst : executeAll first scene = .ok reports afterFirst)
    (hrunSecond : executeAll second scene = .ok others afterSecond) :
    ∃ creature another, afterFirst = scene.update target creature ∧
      afterSecond = scene.update other another ∧
      executeAll (first ++ second) scene =
        .ok (reports ++ others) ((scene.update target creature).update other another) ∧
      executeAll (second ++ first) scene =
        .ok (others ++ reports) ((scene.update target creature).update other another) := by
  obtain ⟨present, htarget⟩ := Option.isSome_iff_exists.mp (hpresent target)
  obtain ⟨present', hotherPresent⟩ := Option.isSome_iff_exists.mp (hpresent other)
  obtain ⟨creature, rfl⟩ := exists_update_of_executeAll hfirst htarget hrunFirst
  obtain ⟨another, rfl⟩ := exists_update_of_executeAll hsecond hotherPresent hrunSecond
  -- Each list is run behind the other one, where it finds its own creature as it was.
  refine ⟨creature, another, rfl, rfl, executeAll_append hrunFirst ?_,
    executeAll_append hrunSecond ?_⟩
  · rw [Scene.update_comm hother]
    exact executeAll_update hsecond hother.symm hotherPresent hrunSecond creature
  · exact executeAll_update hfirst hother htarget hrunFirst another

/-- **Actions on the user and on the opponent commute.** If neither is a fault, they can be run in
either order. Both orders come to the same scene, in which each creature is what its own action
alone makes of it, and each action reports what it reports alone, messages included. -/
theorem user_opponent_comm {user opponent : Action} {scene afterUser afterOpponent : Scene σ}
    {userReport opponentReport : ActionReport} (huser : user.ActsOn .user)
    (hopponent : opponent.ActsOn .opponent)
    (hpresent : scene.context.opponent.isSome = true)
    (hrunUser : user.execute scene = .ok userReport afterUser)
    (hrunOpponent : opponent.execute scene = .ok opponentReport afterOpponent) :
    let after : Scene σ := { scene with context := { scene.context with
      creature := afterUser.context.creature
      opponent := afterOpponent.context.opponent } }
    executeAll [user, opponent] scene = .ok [userReport, opponentReport] after ∧
      executeAll [opponent, user] scene = .ok [opponentReport, userReport] after := by
  obtain ⟨creature, another, rfl, rfl, horder, hreverse⟩ :=
    executeAll_append_comm (List.forall_mem_singleton.mpr huser)
      (List.forall_mem_singleton.mpr hopponent) (by decide)
      (fun place => by cases place with | user => rfl | opponent => exact hpresent)
      (executeAll_singleton_ok_iff.mpr hrunUser) (executeAll_singleton_ok_iff.mpr hrunOpponent)
  exact ⟨horder, hreverse⟩

/-- A lesson for the user and a berry for the opponent, each with a message about its creature. -/
theorem user_opponent_comm_berry :
    let scene : Scene Recorded :=
      { context :=
          { creature := { species := "eevee", hp := 10, maxHp := 20 }
            opponent := some { species := "gengar", hp := 5, maxHp := 30 }
            trainer := { name := "red" } }
        source := { words := [7] } }
    let lesson : Action :=
      { kind := .teachMove { move := "bite" }
        successMessage := some "{species} learns {value} from {trainer}" }
    let berry : Action :=
      { kind := .healFixed 10
        target := .opponent
        successMessage := some "{species} has {hp} HP" }
    ∃ lessonReport berryReport after,
      executeAll [lesson, berry] scene = .ok [lessonReport, berryReport] after ∧
      executeAll [berry, lesson] scene = .ok [berryReport, lessonReport] after ∧
      lessonReport.message = "eevee learns bite from red" ∧
      berryReport.message = "gengar has 15 HP" ∧
      after.context.creature.moves = ["bite"] ∧
      after.context.opponent.map Creature.hp = some 15 := by
  intro scene lesson berry
  have hlesson : lesson.ActsOn .user := ⟨rfl, by decide, rfl, rfl⟩
  have hberry : berry.ActsOn .opponent := ⟨rfl, by decide, rfl, rfl⟩
  have hpresent : scene.context.opponent.isSome = true := rfl
  obtain ⟨horder, hreverse⟩ := user_opponent_comm hlesson hberry hpresent rfl rfl
  exact ⟨_, _, _, horder, hreverse, by decide +kernel, by decide +kernel, rfl, rfl⟩

end Action

end BattleItems
