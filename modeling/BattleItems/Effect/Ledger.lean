import BattleItems.Effect.Basic

/-!
# BattleItems.Effect.Ledger

The uses of effects within one battle.

A `Ledger` belongs to a battle and is keyed by effect id alone, so effects that share a ledger must
not share an id; the checks on catalogs see to that. Running effects only reads it. Uses are
recorded afterwards, for the effects that succeeded, and all of them are forgotten when the battle
ends.
-/

namespace BattleItems

/-- The uses of one effect. -/
structure UsageRecord where
  uses : UInt32 := 0
  lastTurn : Option UInt32 := none
deriving DecidableEq, Repr

namespace UsageRecord

/-- One more use, on a turn. The count stays at its largest value once it is there. -/
def use (record : UsageRecord) (turn : UInt32) : UsageRecord :=
  { uses := if record.uses.toNat + 1 < UInt32.size then record.uses + 1 else record.uses,
    lastTurn := some turn }

end UsageRecord

/-- How far an effect is used up. -/
inductive Lifecycle where
  | unused
  | used (uses : UInt32)
  /-- No more uses in this battle. -/
  | exhausted
deriving DecidableEq, Repr

/-- Why a restriction refuses a use. -/
inductive Refusal where
  | alreadyUsed
  | limitReached (max : UInt32)
  | cooldown (remaining : UInt32)
deriving DecidableEq, Repr

namespace Refusal

def message : Refusal → String
  | alreadyUsed => "Already used this battle"
  | limitReached max => s!"Usage limit reached ({max} per battle)"
  | cooldown remaining =>
    if remaining = 1 then "Cooldown active (1 turn remaining)"
    else s!"Cooldown active ({remaining} turns remaining)"

end Refusal

/-- The records of a battle, by effect id. -/
structure Ledger where
  entries : List (String × UsageRecord) := []
deriving DecidableEq, Repr

/-- Changes the value of a key, or adds the key at the end with the changed default. -/
def alterEntry (key : String) (change : UsageRecord → UsageRecord) :
    List (String × UsageRecord) → List (String × UsageRecord)
  | [] => [(key, change {})]
  | entry :: rest =>
    if entry.1 = key then (key, change entry.2) :: rest
    else entry :: alterEntry key change rest

/-- The value of a key; one that is absent has the default record. -/
def recordIn : List (String × UsageRecord) → String → UsageRecord
  | [], _ => {}
  | entry :: rest, key => if key = entry.1 then entry.2 else recordIn rest key

namespace Ledger

/-- The record of an effect; one that was never used has the default record. -/
def record (ledger : Ledger) (effect : String) : UsageRecord := recordIn ledger.entries effect

def isEmpty (ledger : Ledger) : Bool := ledger.entries.isEmpty

/-- Counts one use of an effect on a turn. -/
def recordUse (ledger : Ledger) (effect : String) (turn : UInt32) : Ledger :=
  ⟨alterEntry effect (·.use turn) ledger.entries⟩

/-- Counts a use for every report of success. -/
def recordReports (ledger : Ledger) (reports : List EffectReport) (turn : UInt32) : Ledger :=
  (reports.filter (·.success)).foldl (fun ledger report => ledger.recordUse report.effect turn)
    ledger

/-- How far an effect is used up. -/
def lifecycle (ledger : Ledger) (effect : Effect) : Lifecycle :=
  let uses := (ledger.record effect.id).uses
  if uses = 0 then .unused
  else if effect.restrictions.oncePerBattle || effect.restrictions.maxUses.any (· ≤ uses) then
    .exhausted
  else .used uses

/-- The turns of a cooldown that are left `turn`, if any. A turn before the last use counts as the
turn of the last use. -/
def remainingCooldown? (cooldown lastTurn turn : UInt32) : Option UInt32 :=
  let elapsed := if lastTurn ≤ turn then turn - lastTurn else 0
  if elapsed < cooldown then some (cooldown - elapsed) else none

/-- Why the restrictions of an effect refuse a use on a turn, if they do. -/
def refusal? (ledger : Ledger) (effect : Effect) (turn : UInt32) : Option Refusal :=
  let restrictions := effect.restrictions
  let record := ledger.record effect.id
  if restrictions.oncePerBattle && 0 < record.uses then some .alreadyUsed
  else
    match restrictions.maxUses.filter (· ≤ record.uses) with
    | some max => some (.limitReached max)
    | none =>
      match restrictions.cooldown, record.lastTurn with
      | some cooldown, some lastTurn => (remainingCooldown? cooldown lastTurn turn).map .cooldown
      | _, _ => none

/-! ### What recording does to the records -/

theorem recordIn_alterEntry (key other : String) (change : UsageRecord → UsageRecord)
    (entries : List (String × UsageRecord)) :
    recordIn (alterEntry key change entries) other =
      if other = key then change (recordIn entries key) else recordIn entries other := by
  induction entries with
  | nil => by_cases h : other = key <;> simp [alterEntry, recordIn, h]
  | cons entry rest ih =>
    obtain ⟨name, value⟩ := entry
    by_cases hname : name = key
    · subst hname
      by_cases h : other = name <;> simp [alterEntry, recordIn, h]
    · have hkey : ¬key = name := fun h => hname h.symm
      by_cases h : other = name
      · subst h
        simp [alterEntry, recordIn, hname]
      · simp [alterEntry, recordIn, hname, h, hkey, ih]

theorem record_recordUse (ledger : Ledger) (effect other : String) (turn : UInt32) :
    (ledger.recordUse effect turn).record other =
      if other = effect then (ledger.record effect).use turn else ledger.record other :=
  recordIn_alterEntry ..

/-! ### What is left of a cooldown -/

section

variable {cooldown lastTurn turn : UInt32}

theorem toNat_elapsed (lastTurn turn : UInt32) :
    (if lastTurn ≤ turn then turn - lastTurn else 0).toNat = turn.toNat - lastTurn.toNat := by
  by_cases hle : lastTurn ≤ turn
  · rw [if_pos hle, UInt32.toNat_sub_of_le _ _ hle]
  · rw [if_neg hle, UInt32.toNat_zero]
    rw [UInt32.le_iff_toNat_le] at hle
    omega

theorem remainingCooldown?_eq_none_iff :
    remainingCooldown? cooldown lastTurn turn = none ↔
      cooldown.toNat ≤ turn.toNat - lastTurn.toNat := by
  simp only [remainingCooldown?, ite_eq_right_iff, reduceCtorEq, imp_false]
  rw [UInt32.lt_iff_toNat_lt, toNat_elapsed, Nat.not_lt]

/-- The turns left of a cooldown are those of natural numbers, as no difference is below zero. -/
theorem remainingCooldown?_eq_some_iff {remaining : UInt32} :
    remainingCooldown? cooldown lastTurn turn = some remaining ↔
      0 < remaining.toNat ∧
        remaining.toNat = cooldown.toNat - (turn.toNat - lastTurn.toNat) := by
  have helapsed := toNat_elapsed lastTurn turn
  simp only [remainingCooldown?]
  generalize (if lastTurn ≤ turn then turn - lastTurn else 0) = elapsed at helapsed ⊢
  rw [← helapsed]
  by_cases hlt : elapsed < cooldown
  · have hleft := UInt32.toNat_sub_of_le cooldown elapsed (UInt32.le_of_lt hlt)
    rw [if_pos hlt, Option.some.injEq, ← UInt32.toNat_inj, hleft]
    rw [UInt32.lt_iff_toNat_lt] at hlt
    omega
  · rw [if_neg hlt]
    rw [UInt32.lt_iff_toNat_lt] at hlt
    constructor
    · exact nofun
    · rintro ⟨hpos, hleft⟩
      omega

end

end Ledger

end BattleItems
