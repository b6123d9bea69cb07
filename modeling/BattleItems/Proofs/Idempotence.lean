import BattleItems.Proofs.Footprint

/-!
# BattleItems.Proofs.Idempotence

Actions that do nothing more when they are run again.

A change to a creature settles it (`Creature.Settles`) if the creature is afterwards what it was or
settled, and a settled creature stays what it is: a cured creature has no status, an evolved one is
of the species that the evolution leads to, and a taught one knows the move. What is settled by one
run is left alone by the next, whatever the table of paths or the list of learners says about the
creature in its new state.
-/

namespace BattleItems

/-! ### Changes to a creature -/

/-- A change after which a creature is what it was or settled, and that leaves a settled creature
alone. -/
structure Creature.Settles (settled : Creature → Prop) (change : Creature → Effort × Creature) :
    Prop where
  reaches (creature : Creature) : (change creature).2 = creature ∨ settled (change creature).2
  keeps {creature : Creature} : settled creature → (change creature).2 = creature

namespace Creature

theorem Settles.again {settled : Creature → Prop} {change : Creature → Effort × Creature}
    (h : Settles settled change) (creature : Creature) :
    (change (change creature).2).2 = (change creature).2 := by
  rcases h.reaches creature with hsame | hsettled
  · rw [hsame, hsame]
  · exact h.keeps hsettled

theorem cure_settles (wanted : Option Status) :
    Settles (fun creature => creature.status = none) (·.cure wanted) where
  reaches creature := by
    simp only [cure]
    split
    · exact Or.inl rfl
    · split
      · exact Or.inr rfl
      · split
        · exact Or.inr rfl
        · exact Or.inl rfl
  keeps hnone := by simp only [cure, hnone]

/-- A path from the species that the evolution leads to can only lead back to it. -/
theorem evolve_settles (evolution : Evolution) :
    Settles (fun creature => creature.species = evolution.into) (·.evolve evolution) where
  reaches creature := by
    simp only [evolve]
    split
    · exact Or.inl rfl
    · split
      · exact Or.inr rfl
      · exact Or.inl rfl
  keeps hspecies := by
    simp only [evolve]
    split
    · rfl
    · split
      · -- A path from the species to itself: the evolution succeeds once more.
        rw [← hspecies]
      · rfl

theorem learn_settles (lesson : Lesson) :
    Settles (fun creature => lesson.move ∈ creature.moves) (·.learn lesson) where
  reaches creature := by
    simp only [learn]
    split
    · split
      · exact Or.inl rfl
      · exact Or.inr (List.mem_append_right _ List.mem_cons_self)
    · exact Or.inl rfl
  keeps {creature} hknown := by
    have hknows : creature.knows lesson.move = true := by simpa [knows] using hknown
    simp only [learn, hknows, if_true]
    split <;> rfl

/-- A lesson never adds a second copy of its move. -/
theorem count_learn_le (creature : Creature) (lesson : Lesson) :
    (creature.learn lesson).2.moves.count lesson.move ≤
      max 1 (creature.moves.count lesson.move) := by
  simp only [learn]
  split
  · split
    · exact le_max_right ..
    · rename_i hunknown
      have hnone : creature.moves.count lesson.move = 0 :=
        List.count_eq_zero.mpr (by simpa [knows] using hunknown)
      rw [List.count_append, hnone, List.count_singleton_self]
      exact le_max_left ..
  · exact le_max_right ..

theorem species_evolve (creature : Creature) (evolution : Evolution) :
    (creature.evolve evolution).2.species =
      if ⟨creature.species, evolution.into⟩ ∈ evolution.paths then evolution.into
      else creature.species := by
  simp only [evolve]
  split
  · rename_i hempty
    rw [List.isEmpty_iff.mp hempty, if_neg List.not_mem_nil]
  · split
    · rename_i hpath
      rw [if_pos (List.contains_iff_mem.mp hpath)]
    · rename_i hpath
      rw [if_neg (fun h => hpath (List.contains_iff_mem.mpr h))]

end Creature

/-! ### Applications -/

/-- What settles the creature aimed at does nothing more when it is applied again; without a
creature it fails twice. -/
theorem Context.onTarget_again {settled : Creature → Prop}
    {change : Creature → Effort × Creature} (h : Creature.Settles settled change)
    (target : Target) (context : Context) :
    ∃ first again after,
      context.onTarget target (fun creature => .done (change creature)) = .ok first after ∧
      after.onTarget target (fun creature => .done (change creature)) = .ok again after := by
  cases hpresent : context.target? target with
  | none =>
      have habsent : context.onTarget target (fun creature => .done (change creature)) =
          .ok (.failed s!"No {label target} to use this on") context := by
        simp only [onTarget, hpresent]
      exact ⟨_, _, _, habsent, habsent⟩
  | some creature =>
      have hafter := target?_update_self context target (change creature).2
      refine ⟨_, (change (change creature).2).1, _, onTarget_of_present hpresent _, ?_⟩
      rw [onTarget_of_present hafter]
      simp only [Application.mapState, Application.done, h.again creature, update_of_target? hafter]

namespace ActionKind

/-- The kinds that do nothing more when they are applied again. -/
theorem apply_again {kind : ActionKind} (hkind : kind.tag ∈ [.cureStatus, .evolve, .teachMove,
      .consumeItem, .showMessage, .preventWildEncounters, .unrecognized])
    (target : Target) (context : Context) :
    ∃ first again after, kind.apply target context = .ok first after ∧
      kind.apply target after = .ok again after := by
  cases kind with
  | cureStatus wanted => exact Context.onTarget_again (Creature.cure_settles wanted) target context
  | evolve evolution =>
      exact Context.onTarget_again (Creature.evolve_settles evolution) target context
  | teachMove lesson => exact Context.onTarget_again (Creature.learn_settles lesson) target context
  | consumeItem | showMessage | unrecognized => exact ⟨_, _, context, rfl, rfl⟩
  | preventWildEncounters steps => exact ⟨_, _, (context.repelFor steps).2, rfl, rfl⟩
  | healFixed | healPercentage | boostStat | modifyCatchRate => simp [tag] at hkind

end ActionKind

/-! ### Runs -/

namespace Action

variable {σ : Type} [DrawSource σ] {action : Action} {scene after : Scene σ}

theorem executeAll_replicate {report : ActionReport} (h : action.execute scene = .ok report scene)
    (count : Nat) :
    executeAll (List.replicate count action) scene =
      .ok (List.replicate count report) scene := by
  induction count with
  | zero => rfl
  | succ count ih =>
      rw [List.replicate_succ, executeAll_cons_ok_iff]
      exact ⟨report, scene, _, h, ih, List.replicate_succ⟩

/-- Without gates, the creature aimed at becomes what the kind makes of it. -/
theorem target?_of_execute {change : Creature → Effort × Creature} {creature : Creature}
    {report : ActionReport} (hungated : action.IsUngated)
    (hkind : action.kind.creatureChange? = some fun creature => .done (change creature))
    (hpresent : scene.context.target? action.target = some creature)
    (hrun : action.execute scene = .ok report after) :
    after.context.target? action.target = some (change creature).2 := by
  rw [execute_of_creatureChange? hkind (hungated.gate_eq ..) hpresent rfl] at hrun
  cases hrun
  exact Context.target?_update_self ..

/-- **Actions that can be repeated without harm.** A cure, an evolution, a lesson, a message, a
repellent, an item spent and a kind from a newer catalog always run to their end, and every further
run, one or any number of them, leaves the scene as the first one left it. A lesson never adds a
second copy of its move, and an evolution leads to its own species and no further, whatever other
paths start there. -/
theorem execute_idempotent (hungated : action.IsUngated)
    (hkind : action.kind.tag ∈ [.cureStatus, .evolve, .teachMove, .consumeItem, .showMessage,
      .preventWildEncounters, .unrecognized]) (scene : Scene σ) :
    ∃ first again after, action.execute scene = .ok first after ∧
      action.execute after = .ok again after ∧
      (∀ count, executeAll (List.replicate (count + 1) action) scene =
        .ok (first :: List.replicate count again) after) ∧
      ∀ creature, scene.context.target? action.target = some creature →
        (∀ lesson, action.kind = .teachMove lesson →
          ∃ later, after.context.target? action.target = some later ∧
            later.moves.count lesson.move ≤ max 1 (creature.moves.count lesson.move)) ∧
        ∀ evolution, action.kind = .evolve evolution →
          ∃ later, after.context.target? action.target = some later ∧
            later.species =
              if ⟨creature.species, evolution.into⟩ ∈ evolution.paths then evolution.into
              else creature.species := by
  obtain ⟨effort, effortAgain, context, hfirst, hagain⟩ :=
    ActionKind.apply_again hkind action.target scene.context
  have hrun : action.execute scene = .ok (action.report effort context) { scene with context } := by
    rw [execute_of_isUngated hungated, hfirst]
  have hrunAgain : action.execute { scene with context } =
      .ok (action.report effortAgain context) { scene with context } := by
    rw [execute_of_isUngated hungated, hagain]
  refine ⟨_, _, _, hrun, hrunAgain, fun count => ?_, fun creature hpresent =>
    ⟨fun lesson hlesson => ⟨_, ?_, creature.count_learn_le lesson⟩,
      fun evolution hevolution => ⟨_, ?_, creature.species_evolve evolution⟩⟩⟩
  · rw [List.replicate_succ]
    exact executeAll_cons_ok_iff.mpr
      ⟨_, _, _, hrun, executeAll_replicate hrunAgain count, rfl⟩
  · exact target?_of_execute hungated (by rw [hlesson]; rfl) hpresent hrun
  · exact target?_of_execute hungated (by rw [hevolution]; rfl) hpresent hrun

/-- A stone whose paths go around and on from the species that it leads to, used three times on the
opponent. -/
theorem execute_idempotent_stone :
    let stone : Action :=
      { kind := .evolve
          { into := "vaporeon"
            paths := [⟨"eevee", "vaporeon"⟩, ⟨"vaporeon", "vaporeon"⟩, ⟨"vaporeon", "flareon"⟩] }
        target := .opponent }
    let scene : Scene Recorded :=
      { context := { opponent := some { species := "eevee" } }, source := { words := [7] } }
    ∃ first again after, stone.execute scene = .ok first after ∧
      stone.execute after = .ok again after ∧
      executeAll [stone, stone, stone] scene = .ok [first, again, again] after ∧
      after.context.opponent.map Creature.species = some "vaporeon" := by
  intro stone scene
  have hungated : stone.IsUngated := ⟨rfl, rfl⟩
  obtain ⟨first, again, after, hfirst, hagain, hruns, hcreature⟩ :=
    execute_idempotent hungated (by decide) scene
  obtain ⟨later, hlater, hspecies⟩ := (hcreature { species := "eevee" } rfl).2 _ rfl
  refine ⟨first, again, after, hfirst, hagain, hruns 2, ?_⟩
  rw [show after.context.opponent = some later from hlater, Option.map_some, hspecies]
  decide

end Action

end BattleItems
