import BattleItems.Catalog.Basic
import BattleItems.Proofs.BatchRuns

/-!
# BattleItems.Proofs.ItemTriggers

The triggers that an item lists are those it responds to.

The list is made in one walk over the effects. Behind any part of the walk it holds the triggers met
so far, in the order in which they were first met (`ListsTriggers`), and one more effect keeps it so
(`ListsTriggers.meet`). A batch in turn makes no report exactly if no effect is selected, as even an
effect that stops the batch is reported first.
-/

namespace BattleItems

/-! ### The walk over the effects -/

/-- The place of the first effect on a trigger. -/
def firstPlace (effects : List Effect) (trigger : Trigger) : Nat :=
  (effects.map (·.trigger)).idxOf trigger

/-- A list holds the triggers of effects, in the order of their first places. -/
structure ListsTriggers (effects : List Effect) (listed : List Trigger) : Prop where
  mem_iff : ∀ trigger, trigger ∈ listed ↔ trigger ∈ effects.map (·.trigger)
  inOrder : listed.Pairwise fun earlier later =>
    firstPlace effects earlier < firstPlace effects later

variable {met effects : List Effect} {listed : List Trigger} {trigger : Trigger}

theorem listsTriggers_nil : ListsTriggers [] [] := ⟨fun _ => Iff.rfl, .nil⟩

theorem ListsTriggers.nodup (h : ListsTriggers effects listed) : listed.Nodup := by
  refine h.inOrder.imp ?_
  rintro earlier later hlt rfl
  exact Nat.lt_irrefl _ hlt

/-- Effects behind the first one on a trigger do not move its place. -/
theorem firstPlace_append (hmet : trigger ∈ met.map (·.trigger)) (rest : List Effect) :
    firstPlace (met ++ rest) trigger = firstPlace met trigger := by
  rw [firstPlace, List.map_append, List.idxOf_append_of_mem hmet]
  rfl

theorem firstPlace_append_of_new {effect : Effect}
    (hnew : effect.trigger ∉ met.map (·.trigger)) :
    firstPlace (met ++ [effect]) effect.trigger = met.length := by
  rw [firstPlace, List.map_append, List.idxOf_append_of_notMem hnew]
  simp

/-- One more effect: its trigger goes to the end, unless it was met before. -/
theorem ListsTriggers.meet (h : ListsTriggers met listed) (effect : Effect) :
    ListsTriggers (met ++ [effect])
      (if effect.trigger ∈ listed then listed else listed ++ [effect.trigger]) := by
  have hkept : listed.Pairwise fun earlier later =>
      firstPlace (met ++ [effect]) earlier < firstPlace (met ++ [effect]) later := by
    refine h.inOrder.imp_of_mem fun {earlier later} hearlier hlater hlt => ?_
    rwa [firstPlace_append ((h.mem_iff earlier).mp hearlier),
      firstPlace_append ((h.mem_iff later).mp hlater)]
  by_cases hknown : effect.trigger ∈ listed
  · rw [if_pos hknown]
    refine ⟨fun trigger => ?_, hkept⟩
    rw [List.map_append, List.mem_append, ← h.mem_iff, List.map_singleton, List.mem_singleton]
    exact ⟨Or.inl, fun hmem => hmem.elim id fun heq => heq ▸ hknown⟩
  · rw [if_neg hknown]
    refine ⟨fun trigger => ?_, List.pairwise_append.mpr ⟨hkept, List.pairwise_singleton _ _, ?_⟩⟩
    · rw [List.map_append, List.mem_append, List.mem_append, ← h.mem_iff, List.map_singleton]
    · -- The new trigger is first met behind everything before it.
      intro earlier hearlier later hlater
      obtain rfl := List.mem_singleton.mp hlater
      have hmet := (h.mem_iff earlier).mp hearlier
      have hplace : firstPlace met earlier < (met.map (·.trigger)).length :=
        List.idxOf_lt_length_of_mem hmet
      rw [firstPlace_append hmet, firstPlace_append_of_new (mt (h.mem_iff _).mpr hknown)]
      rwa [List.length_map] at hplace

/-- Any number of effects, by induction on them. -/
theorem ListsTriggers.addTriggers (h : ListsTriggers met listed) (effects : List Effect) :
    ListsTriggers (met ++ effects) (Item.addTriggers listed effects) := by
  induction effects generalizing met listed with
  | nil => rwa [List.append_nil]
  | cons effect rest ih =>
      rw [Item.addTriggers, List.append_cons]
      exact ih (h.meet effect)

theorem Item.triggers_listsTriggers (item : Item) : ListsTriggers item.effects item.triggers :=
  listsTriggers_nil.addTriggers item.effects

/-! ### Responses -/

variable {σ : Type} [DrawSource σ]

namespace Batch

variable {settings : Settings} {ledger : Ledger} {scene : Scene σ}

/-- The first effect of a batch is reported, whether the batch goes on behind it or not. -/
theorem runAll_eq_nil_iff {order : List Effect} :
    (runAll settings ledger order scene).1 = [] ↔ order = [] := by
  cases order with
  | nil => exact iff_of_true rfl rfl
  | cons effect rest =>
      refine iff_of_false ?_ (List.cons_ne_nil effect rest)
      rcases hrun : effect.process ledger scene with ⟨report, after⟩
      by_cases hcritical : IsCriticalFailure settings effect report
      · rw [runAll_cons_of_critical hrun hcritical]
        exact List.cons_ne_nil _ _
      · rw [runAll_cons_of_not_critical hrun hcritical]
        exact List.cons_ne_nil _ _

theorem process_eq_nil_iff :
    (process settings effects trigger ledger scene).1 = [] ↔
      trigger ∉ effects.map (·.trigger) := by
  rw [process, runAll_eq_nil_iff, List.eq_nil_iff_forall_not_mem]
  simp only [mem_selected, List.mem_map, not_exists, not_and]

end Batch

/-- **The triggers of an item are those it responds to.** They are the triggers that its effects are
bound to, each once and in the order of their first effects; and using the item on a trigger makes
no report exactly if the trigger is none of them. -/
theorem triggers_are_those_responded_to (item : Item) :
    item.triggers.Nodup ∧
      (∀ trigger, trigger ∈ item.triggers ↔ ∃ effect ∈ item.effects, effect.trigger = trigger) ∧
      (item.triggers.Pairwise fun earlier later =>
        firstPlace item.effects earlier < firstPlace item.effects later) ∧
      ∀ (settings : Settings) (trigger : Trigger) (ledger : Ledger) (scene : Scene σ),
        (Batch.process settings item.effects trigger ledger scene).1 = [] ↔
          trigger ∉ item.triggers := by
  have hlists := item.triggers_listsTriggers
  refine ⟨hlists.nodup, fun trigger => ?_, hlists.inOrder, fun settings trigger ledger scene => ?_⟩
  · rw [hlists.mem_iff, List.mem_map]
  · rw [Batch.process_eq_nil_iff, hlists.mem_iff]

/-- A berry with effects on three triggers, two of them on one. -/
example :
    let effect (id : String) (trigger : Trigger) : Effect := { id, trigger, actions := [] }
    ({ id := "berry",
       effects := [effect "a" .onLowHp, effect "b" .onUse, effect "c" .onLowHp,
         effect "d" .onHit] } : Item).triggers = [.onLowHp, .onUse, .onHit] := by
  decide

end BattleItems
