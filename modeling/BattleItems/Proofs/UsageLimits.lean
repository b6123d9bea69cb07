import Mathlib.Data.List.Chain
import BattleItems.Proofs.Footprint

/-!
# BattleItems.Proofs.UsageLimits

The restrictions of an effect hold over whole battles.

A battle is any number of rounds, each of which runs a batch and then records its reports in the
ledger. The context, the source and the settings are the caller's to change between rounds; the
turn may move in either direction. What ties the ledger to the past is `Ledger.Reflects`: the
record of an effect counts the uses that were reported, up to what a word holds, and knows the turn
of the last. A use that the ledger lets through then keeps the restrictions over the longer past
(`Restrictions.KeptBy.use`).
-/

namespace BattleItems

/-! ### What the ledger knows about the past -/

theorem UsageRecord.toNat_uses_use (record : UsageRecord) (turn : UInt32) :
    (record.use turn).uses.toNat = min (record.uses.toNat + 1) (UInt32.size - 1) := by
  have hlt := record.uses.toNat_lt
  simp only [use, UInt32.size] at *
  split
  · rw [UInt32.toNat_add]
    simp only [UInt32.reduceToNat]
    omega
  · omega

namespace Ledger

/-- The ledger knows of exactly the uses of an effect on the given turns. -/
structure Reflects (ledger : Ledger) (effect : String) (turns : List UInt32) : Prop where
  uses : (ledger.record effect).uses.toNat = min turns.length (UInt32.size - 1)
  lastTurn : (ledger.record effect).lastTurn = turns.getLast?

variable {ledger : Ledger} {id : String} {turns : List UInt32} {turn : UInt32}

theorem reflects_empty (id : String) : Reflects {} id [] := ⟨rfl, rfl⟩

theorem Reflects.recordUse (h : ledger.Reflects id turns) (turn : UInt32) :
    (ledger.recordUse id turn).Reflects id (turns ++ [turn]) where
  uses := by
    rw [record_recordUse, if_pos rfl, UsageRecord.toNat_uses_use, h.uses, List.length_append,
      List.length_singleton]
    omega
  lastTurn := by
    rw [record_recordUse, if_pos rfl, List.getLast?_concat]
    rfl

theorem Reflects.recordUse_of_ne {other : String} (h : ledger.Reflects id turns)
    (hne : id ≠ other) (turn : UInt32) : (ledger.recordUse other turn).Reflects id turns where
  uses := by rw [record_recordUse, if_neg hne, h.uses]
  lastTurn := by rw [record_recordUse, if_neg hne, h.lastTurn]

/-- The turns of the successes of an effect among reports that were made on one turn. -/
def usesIn (id : String) (turn : UInt32) (reports : List EffectReport) : List UInt32 :=
  (reports.filter fun report => report.success ∧ report.effect = id).map fun _ => turn

/-- Of at most one success either none or the turn is left. -/
theorem usesIn_cases {reports : List EffectReport} (h : (usesIn id turn reports).length ≤ 1) :
    usesIn id turn reports = [] ∨ usesIn id turn reports = [turn] ∧
      ∃ report ∈ reports, report.success = true ∧ report.effect = id := by
  cases hfound : reports.filter fun report => report.success ∧ report.effect = id with
  | nil => exact Or.inl (by rw [usesIn, hfound]; rfl)
  | cons report others =>
      have hmem : report ∈ reports.filter fun report => report.success ∧ report.effect = id :=
        hfound ▸ List.mem_cons_self
      rw [List.mem_filter, decide_eq_true_iff] at hmem
      rw [usesIn, hfound] at h ⊢
      cases others with
      | nil => exact Or.inr ⟨rfl, report, hmem⟩
      | cons second others => simp at h

theorem Reflects.recordReports (h : ledger.Reflects id turns) (reports : List EffectReport)
    (turn : UInt32) :
    (ledger.recordReports reports turn).Reflects id (turns ++ usesIn id turn reports) := by
  induction reports generalizing ledger turns with
  | nil => simpa [recordReports, usesIn] using h
  | cons report reports ih =>
      by_cases hsuccess : report.success = true
      · by_cases hid : report.effect = id
        · subst hid
          have h := ih (h.recordUse turn)
          simpa [Ledger.recordReports, usesIn, hsuccess] using h
        · have h := ih (h.recordUse_of_ne (Ne.symm hid) turn)
          simpa [Ledger.recordReports, usesIn, hsuccess, hid] using h
      · have h := ih h
        simpa [Ledger.recordReports, usesIn, hsuccess] using h

/-! ### What the ledger lets through -/

theorem refusal?_eq_none_iff {effect : Effect} :
    ledger.refusal? effect turn = none ↔
      (effect.restrictions.oncePerBattle = true → (ledger.record effect.id).uses = 0) ∧
      (∀ max, effect.restrictions.maxUses = some max → (ledger.record effect.id).uses < max) ∧
      ∀ cooldown last, effect.restrictions.cooldown = some cooldown →
        (ledger.record effect.id).lastTurn = some last →
        remainingCooldown? cooldown last turn = none := by
  simp only [refusal?]
  by_cases honce : effect.restrictions.oncePerBattle = true ∧ 0 < (ledger.record effect.id).uses
  · have hne : (ledger.record effect.id).uses ≠ 0 := by
      intro h
      simp [h] at honce
    simp [honce.1, honce.2, hne]
  · have hzero : effect.restrictions.oncePerBattle = true →
        (ledger.record effect.id).uses = 0 := by
      intro h
      by_contra hne
      exact honce ⟨h, UInt32.pos_iff_ne_zero.mpr hne⟩
    rw [if_neg (by simpa using honce), and_iff_right hzero]
    cases hmax : effect.restrictions.maxUses with
    | none =>
        cases effect.restrictions.cooldown <;> cases (ledger.record effect.id).lastTurn <;> simp
    | some max =>
        by_cases hreached : max ≤ (ledger.record effect.id).uses
        · simp [Option.filter, hreached, UInt32.not_lt.mpr hreached]
        · have hlt := UInt32.not_le.mp hreached
          cases effect.restrictions.cooldown <;> cases (ledger.record effect.id).lastTurn <;>
            simp [Option.filter, hreached, hlt]

end Ledger

/-! ### One more use -/

namespace Restrictions

/-- Uses on the given turns, in order, keep the restrictions. -/
structure KeptBy (restrictions : Restrictions) (turns : List UInt32) : Prop where
  once : restrictions.oncePerBattle = true → turns.length ≤ 1
  maxUses : ∀ max, restrictions.maxUses = some max → turns.length ≤ max.toNat
  cooldown : ∀ cooldown, restrictions.cooldown = some cooldown → 0 < cooldown →
    turns.IsChain fun earlier later => earlier.toNat + cooldown.toNat ≤ later.toNat

theorem keptBy_nil (restrictions : Restrictions) : restrictions.KeptBy [] :=
  ⟨fun _ => Nat.zero_le _, fun _ _ => Nat.zero_le _, fun _ _ _ => .nil⟩

/-- A use that the ledger lets through keeps the restrictions. A full counter stands for any number
of uses from the largest word up, but then no limit is left that a word could state. -/
theorem KeptBy.use {effect : Effect} {ledger : Ledger} {turns : List UInt32} {turn : UInt32}
    (hkept : effect.restrictions.KeptBy turns) (hreflects : ledger.Reflects effect.id turns)
    (hrefusal : ledger.refusal? effect turn = none) :
    effect.restrictions.KeptBy (turns ++ [turn]) := by
  obtain ⟨honce, hmax, hcooldown⟩ := Ledger.refusal?_eq_none_iff.mp hrefusal
  have huses := hreflects.uses
  refine ⟨fun h => ?_, fun max h => ?_, fun cooldown h hpos => ?_⟩
  · rw [honce h, UInt32.toNat_zero, UInt32.size] at huses
    rw [List.length_append, List.length_singleton]
    omega
  · -- The count is below `max`, so it is no full counter and stands for the length itself.
    have hlt := UInt32.lt_iff_toNat_lt.mp (hmax max h)
    have hsize := max.toNat_lt_size
    rw [List.length_append, List.length_singleton]
    omega
  · rw [List.isChain_append]
    refine ⟨hkept.cooldown cooldown h hpos, .singleton turn, fun last hlast next hnext => ?_⟩
    obtain rfl : turn = next := by simpa using hnext
    have hleft := Ledger.remainingCooldown?_eq_none_iff.mp
      (hcooldown cooldown last h (hreflects.lastTurn.trans hlast))
    have hpos := UInt32.lt_iff_toNat_lt.mp hpos
    rw [UInt32.toNat_zero] at hpos
    omega

end Restrictions

/-! ### Rounds -/

/-- A round of a battle: a batch, with the context and the source that the caller hands over. -/
structure Round (σ : Type) where
  effects : List Effect
  trigger : Trigger
  settings : Settings
  scene : Scene σ

namespace Round

variable {σ : Type} [DrawSource σ]

/-- The reports of the round, and the scene behind it. -/
def play (round : Round σ) (ledger : Ledger) : List EffectReport × Scene σ :=
  Batch.process round.settings round.effects round.trigger ledger round.scene

/-- The turn on which the reports of the round are recorded. -/
def turn (round : Round σ) (ledger : Ledger) : UInt32 :=
  (round.play ledger).2.context.currentTurn

/-- The ledger behind the round. -/
def settle (round : Round σ) (ledger : Ledger) : Ledger :=
  ledger.recordReports (round.play ledger).1 (round.turn ledger)

/-- The turns of the successes of an effect through rounds that start from a ledger. -/
def usesThrough (id : String) (ledger : Ledger) : List (Round σ) → List UInt32
  | [] => []
  | round :: rest =>
    Ledger.usesIn id (round.turn ledger) (round.play ledger).1 ++
      usesThrough id (round.settle ledger) rest

variable {round : Round σ} {ledger : Ledger} {id : String}

/-- The turn that a round is recorded on is the turn that its effects saw. -/
theorem turn_eq (round : Round σ) (ledger : Ledger) :
    round.turn ledger = round.scene.context.currentTurn :=
  (treated_footprint.batch fun _ _ _ _ => trivial).1.currentTurn_eq

/-- A success of a round was let through by the ledger on the turn of the round. -/
theorem refusal?_of_success {report : EffectReport} (hreport : report ∈ (round.play ledger).1)
    (hsuccess : report.success = true) :
    ∃ effect ∈ round.effects, effect.id = report.effect ∧
      ledger.refusal? effect (round.turn ledger) = none := by
  obtain ⟨effect, heffect, mid, after, htreated, hrun⟩ :=
    (treated_footprint.batch fun _ _ _ _ => trivial).2 report hreport
  refine ⟨effect, heffect, ?_, ?_⟩
  · have hid := effect.process_effect ledger mid
    rw [hrun] at hid
    exact hid.symm
  · rw [turn_eq, ← htreated.currentTurn_eq]
    exact Effect.refusal?_of_process_success hrun hsuccess

/-- Where ids are distinct, an effect has one report at most. -/
theorem nodup_reports (hdistinct : (round.effects.map (·.id)).Nodup) :
    ((round.play ledger).1.map (·.effect)).Nodup := by
  have hids := (Batch.runAll_reports round.settings ledger
    (Batch.selected round.effects round.trigger) round.scene).2
  rw [play, Batch.process, hids]
  exact (Batch.nodup_selected hdistinct round.trigger).sublist ((List.take_sublist _ _).map _)

theorem length_usesIn_le_one (ledger : Ledger) (id : String)
    (hdistinct : (round.effects.map (·.id)).Nodup) (turn : UInt32) :
    (Ledger.usesIn id turn (round.play ledger).1).length ≤ 1 := by
  calc (Ledger.usesIn id turn (round.play ledger).1).length
      = (round.play ledger).1.countP fun report => report.success ∧ report.effect = id := by
        rw [Ledger.usesIn, List.length_map, List.countP_eq_length_filter]
    _ ≤ (round.play ledger).1.countP ((· == id) ∘ (·.effect)) := by
        refine List.countP_mono_left fun report _ h => ?_
        simpa using (of_decide_eq_true h).2
    _ = ((round.play ledger).1.map (·.effect)).count id := by
        rw [List.count, List.countP_map]
    _ ≤ 1 := List.nodup_iff_count.mp (nodup_reports hdistinct) id

/-- One round: the ledger goes on reflecting the uses, and they go on keeping the restrictions. -/
theorem keptBy_round {restrictions : Restrictions} {turns : List UInt32}
    (hdistinct : (round.effects.map (·.id)).Nodup)
    (hsame : ∀ effect ∈ round.effects, effect.id = id → effect.restrictions = restrictions)
    (hreflects : ledger.Reflects id turns) (hkept : restrictions.KeptBy turns) :
    restrictions.KeptBy (turns ++ Ledger.usesIn id (round.turn ledger) (round.play ledger).1) := by
  -- A round adds one use at most; a second one would not have met the ledger's refusal.
  rcases Ledger.usesIn_cases (length_usesIn_le_one ledger id hdistinct (round.turn ledger)) with
    hnone | ⟨hone, report, hreport, hsuccess, hid⟩
  · rwa [hnone, List.append_nil]
  · obtain ⟨effect, heffect, heq, hrefusal⟩ := refusal?_of_success hreport hsuccess
    obtain rfl : effect.id = id := heq.trans hid
    obtain rfl := hsame effect heffect rfl
    rw [hone]
    exact hkept.use hreflects hrefusal

/-- Any number of rounds, by induction on them. -/
theorem keptBy_usesThrough {restrictions : Restrictions} {turns : List UInt32}
    {rounds : List (Round σ)}
    (hdistinct : ∀ round ∈ rounds, (round.effects.map (·.id)).Nodup)
    (hsame : ∀ round ∈ rounds, ∀ effect ∈ round.effects, effect.id = id →
      effect.restrictions = restrictions)
    (hreflects : ledger.Reflects id turns) (hkept : restrictions.KeptBy turns) :
    restrictions.KeptBy (turns ++ usesThrough id ledger rounds) := by
  -- Ledger and past grow together: the invariant is that the one reflects the other.
  induction rounds generalizing ledger turns with
  | nil => simpa [usesThrough] using hkept
  | cons round rest ih =>
      rw [usesThrough, ← List.append_assoc]
      exact ih (fun r hr => hdistinct r (List.mem_cons_of_mem _ hr))
        (fun r hr => hsame r (List.mem_cons_of_mem _ hr))
        (hreflects.recordReports _ _)
        (keptBy_round (hdistinct round List.mem_cons_self) (hsame round List.mem_cons_self)
          hreflects hkept)

/-- **Restrictions hold over whole battles.** Over any rounds that start from an empty ledger, the
successes of an effect keep its restrictions: one at most if it works once per battle, no more than
its maximum, and a cooldown between any two that follow each other. -/
theorem restrictions_keptBy_battle (rounds : List (Round σ)) (id : String)
    (restrictions : Restrictions)
    (hdistinct : ∀ round ∈ rounds, (round.effects.map (·.id)).Nodup)
    (hsame : ∀ round ∈ rounds, ∀ effect ∈ round.effects, effect.id = id →
      effect.restrictions = restrictions) :
    restrictions.KeptBy (usesThrough id {} rounds) := by
  have hkept := keptBy_usesThrough hdistinct hsame (Ledger.reflects_empty id)
    restrictions.keptBy_nil
  rwa [List.nil_append] at hkept

/-- A tonic that works twice, two turns apart, in a battle whose turns also go back. -/
theorem restrictions_keptBy_battle_tonic :
    let tonic : Effect := {
      id := "tonic", trigger := .onUse, actions := [{ kind := .showMessage "Refreshed." }],
      restrictions := { maxUses := some 2, cooldown := some 2 } }
    let rounds : List (Round Recorded) := [4, 5, 2, 6, 9].map fun turn =>
      ⟨[tonic], .onUse, {}, ⟨{ battle := some { turn } }, { words := [] }⟩⟩
    (∀ round ∈ rounds, (round.effects.map (·.id)).Nodup) ∧
      (∀ round ∈ rounds, ∀ effect ∈ round.effects, effect.id = "tonic" →
        effect.restrictions = tonic.restrictions) ∧
      usesThrough "tonic" {} rounds = [4, 6] ∧
      tonic.restrictions.KeptBy (usesThrough "tonic" {} rounds) := by
  intro tonic rounds
  have hdistinct : ∀ round ∈ rounds, (round.effects.map (·.id)).Nodup := by
    simp [rounds]
  have hsame : ∀ round ∈ rounds, ∀ effect ∈ round.effects, effect.id = "tonic" →
      effect.restrictions = tonic.restrictions := by
    simp [rounds]
  refine ⟨hdistinct, hsame, ?_, restrictions_keptBy_battle rounds "tonic" _ hdistinct hsame⟩
  decide +kernel

end Round

end BattleItems
