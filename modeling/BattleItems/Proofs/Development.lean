import BattleItems.Proofs.EffectRuns

/-!
# BattleItems.Proofs.Development

How creatures develop in a run.

`Context.Treated` says which fields the engine writes at all. `Context.Developed` adds in which way:
the stats of a creature keep their names, a status is at most cleared, and moves are only learned
anew. Both hold across every application, so they hold between any two of the contexts that a run
goes through (`Call.contexts`). A species has no such direction, but it has a cause: it changes only
by an evolution that was executed on the creature (`Execution.Evolves`).
-/

namespace BattleItems

/-! ### One creature -/

/-- In which way item effects change what they write of a creature. -/
structure Creature.Developed (before after : Creature) : Prop where
  statNames (stat : StatKind) :
    (after.stats.get? stat).isSome = (before.stats.get? stat).isSome
  status : after.status = before.status ∨ after.status = none
  /-- Moves are added at the end, and none that was known at the time. -/
  moves : ∃ learned, after.moves = before.moves ++ learned ∧ learned.Nodup ∧
    ∀ move ∈ learned, move ∉ before.moves

namespace Creature.Developed

theorem refl (creature : Creature) : creature.Developed creature where
  statNames _ := rfl
  status := Or.inl rfl
  moves := ⟨[], by simp⟩

theorem trans {a b c : Creature} (hab : a.Developed b) (hbc : b.Developed c) :
    a.Developed c where
  statNames stat := (hbc.statNames stat).trans (hab.statNames stat)
  status := by
    rcases hbc.status with hsame | hnone
    · rw [hsame]
      exact hab.status
    · exact Or.inr hnone
  moves := by
    obtain ⟨first, hfirst, hfirstNodup, hfirstNew⟩ := hab.moves
    obtain ⟨second, hsecond, hsecondNodup, hsecondNew⟩ := hbc.moves
    rw [hfirst] at hsecond hsecondNew
    refine ⟨first ++ second, by rw [hsecond, List.append_assoc], ?_, fun move hmove => ?_⟩
    · rw [List.nodup_append]
      refine ⟨hfirstNodup, hsecondNodup, fun move hmove other hother heq => ?_⟩
      exact hsecondNew other hother (List.mem_append_right _ (heq ▸ hmove))
    · rcases List.mem_append.mp hmove with hmove | hmove
      · exact hfirstNew move hmove
      · exact fun hknown => hsecondNew move hmove (List.mem_append_left _ hknown)

end Creature.Developed

theorem ActionKind.CreatureOutcome.developed {kind : ActionKind} {creature later : Creature}
    {effort : Effort} (h : kind.CreatureOutcome creature effort later) :
    creature.Developed later := by
  cases h with
  | failed | known => exact .refl creature
  | healed _ | evolved _ => exact ⟨fun _ => rfl, Or.inl rfl, ⟨[], by simp⟩⟩
  | cured _ => exact ⟨fun _ => rfl, Or.inr rfl, ⟨[], by simp⟩⟩
  | boosted hstat =>
      refine ⟨fun other => ?_, Or.inl rfl, ⟨[], by simp [Creature.withStat]⟩⟩
      -- The stat that is written was there before, so no name is added.
      rw [Creature.withStat, Stats.get?_insert]
      split
      · rename_i heq
        rw [heq, hstat]
        rfl
      · rfl
  | @learned move _ _ hnew => exact ⟨fun _ => rfl, Or.inl rfl, ⟨[move], by simp [hnew]⟩⟩

/-! ### Contexts -/

namespace Context

/-- In which way item effects change a context. -/
structure Developed (before after : Context) : Prop where
  treated : before.Treated after
  creatures (target : Target) :
    Option.Rel Creature.Developed (before.target? target) (after.target? target)

namespace Developed

theorem refl (context : Context) : context.Developed context where
  treated := .refl context
  creatures _ := rel_refl Creature.Developed.refl _

theorem trans {a b c : Context} (hab : a.Developed b) (hbc : b.Developed c) : a.Developed c where
  treated := hab.treated.trans hbc.treated
  creatures target :=
    rel_trans (R := Creature.Developed) (fun _ _ _ => Creature.Developed.trans)
      (hab.creatures target) (hbc.creatures target)

end Developed

end Context

theorem ActionKind.apply_developed {kind : ActionKind} {target : Target} {context after : Context}
    {effort : Effort} (h : kind.apply target context = .ok effort after) :
    context.Developed after := by
  refine ⟨apply_treated h, fun other => ?_⟩
  cases apply_outcome h with
  | onCreature hpresent houtcome =>
      exact Context.rel_target?_update Creature.Developed.refl hpresent houtcome.developed other
  | failed | spent | said | catchRate _ | repelled =>
      cases other <;> exact rel_refl Creature.Developed.refl _

theorem developed_footprint : Footprint (fun _ => True) Context.Developed where
  refl := Context.Developed.refl
  trans := Context.Developed.trans
  apply _ := ActionKind.apply_developed

/-! ### Species -/

section Species

variable {σ : Type} [DrawSource σ]

/-- An evolution was executed on a target and made it the species. -/
structure Execution.Evolves (execution : Execution σ) (target : Target) (species : String) :
    Prop where
  kind : ∃ evolution, execution.action.kind = .evolve evolution ∧ evolution.into = species
  target : execution.action.target = target
  success : execution.report.success = true

/-- An execution leaves every creature where it is, and the species too unless it evolves it. -/
theorem Execution.species_after (execution : Execution σ) {target : Target} {before : Creature}
    (hbefore : execution.before.context.target? target = some before) :
    ∃ after, execution.after.context.target? target = some after ∧
      (after.species = before.species ∨ execution.Evolves target after.species) := by
  obtain ⟨action, scene, report, last, hrun⟩ := execution
  have hend := action.execute_ending scene
  rw [hrun] at hend
  cases hend with
  | stopped _ => exact ⟨before, hbefore, Or.inl rfl⟩
  | applied _ happly =>
      cases ActionKind.apply_outcome happly with
      | failed | spent | said => exact ⟨before, hbefore, Or.inl rfl⟩
      | catchRate _ | repelled =>
          refine ⟨before, ?_, Or.inl rfl⟩
          cases target <;> exact hbefore
      | @onCreature creature later _ hpresent houtcome =>
          by_cases htarget : target = action.target
          · subst htarget
            obtain rfl := Option.some.inj (hpresent.symm.trans hbefore)
            refine ⟨later, Context.target?_update_self _ _ _, ?_⟩
            cases houtcome with
            | evolved hkind => exact Or.inr ⟨⟨_, hkind, rfl⟩, rfl, rfl⟩
            | failed | healed _ | cured _ | boosted _ | learned _ | known => exact Or.inl rfl
          · refine ⟨before, ?_, Or.inl rfl⟩
            rw [Context.target?_update_of_ne _ _ htarget]
            exact hbefore

/-- Along executions a species stays unless one of them evolves it. -/
theorem Execution.Path.species {first last : Context} {executions : List (Execution σ)}
    (h : Path first executions last) {target : Target} {before after : Creature}
    (hbefore : first.target? target = some before) (hafter : last.target? target = some after) :
    after.species = before.species ∨
      ∃ execution ∈ executions, execution.Evolves target after.species := by
  induction h generalizing before with
  | nil =>
      obtain rfl := Option.some.inj (hbefore.symm.trans hafter)
      exact Or.inl rfl
  | cons execution _ ih =>
      obtain ⟨mid, hmid, hspecies⟩ := execution.species_after hbefore
      rcases ih hmid hafter with hsame | ⟨later, hlater, hevolves⟩
      · rw [hsame]
        exact hspecies.imp_right fun hevolves => ⟨execution, List.mem_cons_self, hevolves⟩
      · exact Or.inr ⟨later, List.mem_cons_of_mem _ hlater, hevolves⟩

end Species

/-! ### Runs -/

section Runs

variable {σ : Type} [DrawSource σ]

namespace Execution.Path

variable {first last : Context} {executions : List (Execution σ)}

/-- A relation that holds across every application holds between any two contexts on the way. -/
theorem pairwise {R : Context → Context → Prop} (hR : Footprint (fun _ => True) R)
    (h : Path first executions last) :
    (first :: executions.map (·.after.context)).Pairwise R := by
  induction h with
  | nil => exact List.pairwise_singleton R _
  | cons execution _ ih =>
      have hstep : R execution.before.context execution.after.context :=
        hR.execute_ok trivial execution.execute_eq
      rw [List.map_cons, List.pairwise_cons]
      refine ⟨fun later hlater => ?_, ih⟩
      rcases List.mem_cons.mp hlater with rfl | hlater
      · exact hstep
      · exact hR.trans hstep ((List.pairwise_cons.mp ih).1 later hlater)

theorem getLast? (h : Path first executions last) :
    (first :: executions.map (·.after.context)).getLast? = some last := by
  induction h with
  | nil => rfl
  | cons execution _ ih => rw [List.map_cons, List.getLast?_cons_cons, ih]

/-- The first executions lead to the context that stands behind them. -/
theorem take {k : Nat} {mid : Context} (h : Path first executions last)
    (hmid : (first :: executions.map (·.after.context))[k]? = some mid) :
    Path first (executions.take k) mid := by
  induction h generalizing k with
  | nil =>
      cases k with
      | zero =>
          obtain rfl := Option.some.inj hmid
          exact .nil
      | succ k => simp at hmid
  | cons execution _ ih =>
      cases k with
      | zero =>
          obtain rfl := Option.some.inj hmid
          exact .nil
      | succ k => exact .cons execution (ih hmid)

end Execution.Path

namespace Call

/-- The contexts that a run goes through: the first, and the one behind each action. -/
def contexts (calls : List (Call σ)) (context : Context) : List Context :=
  context :: (executions calls context).map (·.after.context)

/-- **The footprint of a run.** A run goes from its first context to its last, one action after
another, and of any two contexts on the way the later is the earlier one treated and developed: what
the engine does not write stays, HP do not fall and stay within their maximum, stats keep their
names, a status is at most cleared, and new moves are added behind the old ones. A creature is of
its first species, or of one that an evolution executed on it so far leads to. -/
theorem contexts_within_footprint (calls : List (Call σ)) (context : Context) :
    (contexts calls context).getLast? = some (playAll calls context).2 ∧
      (contexts calls context).Pairwise Context.Developed ∧
      ∀ (k : Nat) (mid : Context) (target : Target) (before after : Creature),
        (contexts calls context)[k]? = some mid →
        context.target? target = some before → mid.target? target = some after →
        after.species = before.species ∨
          ∃ execution ∈ (executions calls context).take k,
            execution.Evolves target after.species := by
  have hpath := executions_path calls context
  refine ⟨hpath.getLast?, hpath.pairwise developed_footprint, ?_⟩
  intro k mid target before after hmid hbefore hafter
  exact (hpath.take hmid).species hbefore hafter

/-- A stone that evolves its user and teaches it a move, and then a remedy that faults behind its
first action. -/
theorem contexts_within_footprint_stone :
    let stone : Effect := {
      id := "stone", trigger := .onUse,
      actions := [{ kind := .evolve { into := "vaporeon", paths := [⟨"eevee", "vaporeon"⟩] } },
        { kind := .teachMove { move := "surf" } }] }
    let spoiled : Effect := {
      id := "spoiled", trigger := .onUse,
      actions := [{ kind := .healFixed 5 }, { kind := .healPercentage .nan }] }
    let calls : List (Call Recorded) :=
      [.batch {} [stone] .onUse {} { words := [] }, .single spoiled {} { words := [] }]
    let eevee : Creature := { species := "eevee", hp := 10, maxHp := 40 }
    let vaporeon : Creature := { eevee with species := "vaporeon" }
    let surfer : Creature := { vaporeon with moves := ["surf"] }
    contexts calls { creature := eevee } = [{ creature := eevee }, { creature := vaporeon },
        { creature := surfer }, { creature := { surfer with hp := 15 } }] ∧
      eevee.Developed { surfer with hp := 15 } ∧
      ∃ execution ∈ (executions calls { creature := eevee }).take 1,
        execution.Evolves .user "vaporeon" := by
  intro stone spoiled calls eevee vaporeon surfer
  have hcontexts : contexts calls { creature := eevee } = [{ creature := eevee },
      { creature := vaporeon }, { creature := surfer },
      { creature := { surfer with hp := 15 } }] := by decide +kernel
  obtain ⟨-, hpairwise, hspecies⟩ := contexts_within_footprint calls { creature := eevee }
  refine ⟨hcontexts, ?_, ?_⟩
  · rw [hcontexts, List.pairwise_cons] at hpairwise
    exact Option.rel_some_some.mp
      ((hpairwise.1 { creature := { surfer with hp := 15 } } (by simp)).creatures .user)
  · have hevolved := hspecies 1 { creature := vaporeon } .user eevee vaporeon
      (by rw [hcontexts]; rfl) rfl rfl
    exact hevolved.resolve_left (by decide)

end Call

end Runs

end BattleItems
