import BattleItems.Proofs.CatalogIssues
import BattleItems.Proofs.Recording
import BattleItems.Proofs.UsageLimits

/-!
# BattleItems.Proofs.Independence

Items of a valid catalog do not share restriction counters.

A ledger knows effects by id alone, so two items stay apart only if their ids do, and that is what
the checks on a catalog see to (`Catalog.disjoint_ids`). A batch makes reports on its own effects
and no others (`Round.mem_ids_of_mem_play`), so recording it leaves every other record as it was
(`Round.record_recordedThrough`); and as effects are checked against their own records, nothing that
was done with one item shows in what another one does.
-/

namespace BattleItems

/-! ### What agrees where the records agree -/

theorem Ledger.lifecycle_congr {ledger other : Ledger} {effect : Effect}
    (h : ledger.record effect.id = other.record effect.id) :
    ledger.lifecycle effect = other.lifecycle effect := by
  simp only [lifecycle, h]

variable {σ : Type} [DrawSource σ]

namespace Batch

variable {settings : Settings} {ledger other : Ledger}

theorem runAll_congr {order : List Effect}
    (h : ∀ effect ∈ order, ledger.record effect.id = other.record effect.id) (scene : Scene σ) :
    runAll settings ledger order scene = runAll settings other order scene := by
  induction order generalizing scene with
  | nil => rfl
  | cons effect rest ih =>
      rw [List.forall_mem_cons] at h
      simp only [runAll, Effect.process_congr h.1, ih h.2]

/-- Of a ledger a batch reads the records of its effects and nothing else. -/
theorem process_congr {effects : List Effect}
    (h : ∀ effect ∈ effects, ledger.record effect.id = other.record effect.id)
    (trigger : Trigger) (scene : Scene σ) :
    process settings effects trigger ledger scene = process settings effects trigger other scene :=
  runAll_congr (fun effect heffect => h effect (mem_selected.mp heffect).1) scene

end Batch

/-! ### What rounds record -/

namespace Round

variable {ledger : Ledger} {id : String}

/-- The ledger behind rounds, each of which is recorded on the turn beside it. -/
def recordedThrough (ledger : Ledger) : List (Round σ × UInt32) → Ledger
  | [] => ledger
  | (round, turn) :: rest => recordedThrough (ledger.recordReports (round.play ledger).1 turn) rest

/-- A round reports on its own effects and no others. -/
theorem mem_ids_of_mem_play {round : Round σ} {report : EffectReport}
    (hreport : report ∈ (round.play ledger).1) : report.effect ∈ round.effects.map (·.id) := by
  obtain ⟨effect, heffect, mid, after, -, hrun⟩ :=
    (Batch.process_keeps (I := fun _ : Scene σ => True) round.settings round.trigger ledger
      (fun _ _ _ _ => trivial) trivial).2 report hreport
  have hid := effect.process_effect ledger mid
  rw [hrun] at hid
  exact List.mem_map.mpr ⟨effect, heffect, hid.symm⟩

/-- Rounds leave the record of an id alone that none of their effects has. -/
theorem record_recordedThrough {rounds : List (Round σ × UInt32)}
    (hother : ∀ recorded ∈ rounds, id ∉ recorded.1.effects.map (·.id)) :
    (recordedThrough ledger rounds).record id = ledger.record id := by
  induction rounds generalizing ledger with
  | nil => rfl
  | cons recorded rest ih =>
      obtain ⟨round, turn⟩ := recorded
      rw [List.forall_mem_cons] at hother
      rw [recordedThrough, ih hother.2]
      refine Ledger.record_recordReports_of_ne (fun report hreport heq => ?_) ledger turn
      exact hother.1 (heq ▸ mem_ids_of_mem_play hreport)

/-- **Items of a valid catalog keep separate counters.** Whatever rounds are played with the effects
of one item, on any turns and from any ledger, for the effects of an item at another place the
ledger behind them holds the same records, the same states and the same refusals as the ledger
before, and those effects, alone or in a batch, run as if the first item had never been used. -/
theorem items_keep_separate_counters (catalog : Catalog) (i j : Nat) (used other : Item)
    (ledger : Ledger) (rounds : List (Round σ × UInt32)) (hvalid : catalog.issues = [])
    (hused : catalog.items[i]? = some used) (hother : catalog.items[j]? = some other)
    (hne : i ≠ j)
    (hrounds : ∀ recorded ∈ rounds, ∀ effect ∈ recorded.1.effects, effect ∈ used.effects) :
    let later := recordedThrough ledger rounds
    (∀ effect ∈ other.effects,
      later.record effect.id = ledger.record effect.id ∧
      later.lifecycle effect = ledger.lifecycle effect ∧
      (∀ turn, later.refusal? effect turn = ledger.refusal? effect turn) ∧
      ∀ scene : Scene σ, effect.process later scene = effect.process ledger scene) ∧
    ∀ (settings : Settings) (trigger : Trigger) (scene : Scene σ),
      Batch.process settings other.effects trigger later scene =
        Batch.process settings other.effects trigger ledger scene := by
  intro later
  have hdisjoint := Catalog.disjoint_ids hvalid hused hother hne
  have hsame : ∀ effect ∈ other.effects, later.record effect.id = ledger.record effect.id := by
    intro effect heffect
    refine record_recordedThrough fun recorded hrecorded hmem => ?_
    obtain ⟨played, hplayed, hid⟩ := List.mem_map.mp hmem
    have hmine : played.id ∈ used.effects.map (·.id) :=
      List.mem_map_of_mem (hrounds recorded hrecorded played hplayed)
    exact hdisjoint hmine (hid ▸ List.mem_map_of_mem heffect)
  refine ⟨fun effect heffect => ?_, fun settings trigger scene => ?_⟩
  · have h := hsame effect heffect
    exact ⟨h, Ledger.lifecycle_congr h, Ledger.refusal?_congr h, Effect.process_congr h⟩
  · exact Batch.process_congr hsame trigger scene

/-- Two berries that work once per battle. The first one is eaten on turn 3 and is then used up; the
second one still works. -/
theorem items_keep_separate_counters_berries :
    let bite (id : String) : Effect := {
      id, trigger := .onUse, actions := [{ kind := .healFixed 5 }],
      restrictions := { oncePerBattle := true } }
    let first : Item := { id := "oran", effects := [bite "oran-bite"] }
    let second : Item := { id := "sitrus", effects := [bite "sitrus-bite"] }
    let catalog : Catalog := ⟨[first, second]⟩
    let scene : Scene Recorded :=
      ⟨{ creature := { hp := 10, maxHp := 40 }, battle := some { turn := 3 } }, { words := [] }⟩
    let rounds : List (Round Recorded × UInt32) := [(⟨first.effects, .onUse, {}, scene⟩, 3)]
    let later := recordedThrough {} rounds
    catalog.issues = [] ∧ catalog.items[0]? = some first ∧ catalog.items[1]? = some second ∧
      (∀ recorded ∈ rounds, ∀ effect ∈ recorded.1.effects, effect ∈ first.effects) ∧
      later.lifecycle (bite "oran-bite") = .exhausted ∧
      later.lifecycle (bite "sitrus-bite") = .unused ∧
      later.refusal? (bite "sitrus-bite") 3 = none ∧
      (Batch.process {} second.effects .onUse later scene).1.map (·.success) = [true] := by
  intro bite first second catalog scene rounds later
  have hvalid : catalog.issues = [] := by decide +kernel
  have hrounds : ∀ recorded ∈ rounds, ∀ effect ∈ recorded.1.effects, effect ∈ first.effects := by
    simp [rounds]
  obtain ⟨hsame, hplay⟩ := items_keep_separate_counters catalog 0 1 first second {} rounds hvalid
    rfl rfl (by decide) hrounds
  obtain ⟨-, hstate, hrefusal, -⟩ := hsame (bite "sitrus-bite") List.mem_cons_self
  refine ⟨hvalid, rfl, rfl, hrounds, by decide +kernel, hstate, hrefusal 3, ?_⟩
  rw [hplay]
  decide +kernel

end Round

end BattleItems
