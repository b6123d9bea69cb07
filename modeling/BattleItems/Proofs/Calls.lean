import BattleItems.Proofs.Footprint

/-!
# BattleItems.Proofs.Calls

Any number of calls of the engine on one context.

The context goes from call to call; effects, settings, ledgers and sources are each call's own.
What every call keeps of the context the whole run keeps, so the facts about a run are those about
a single call (`Call.playAll_keeps`), and these are those about a single effect
(`Call.play_keeps`).
-/

namespace BattleItems

/-- A call of the engine, without the context that it is made on. -/
inductive Call (σ : Type) where
  /-- The effects of a trigger, one after another. -/
  | batch (settings : Settings) (effects : List Effect) (trigger : Trigger) (ledger : Ledger)
      (source : σ)
  /-- One effect on its own, whatever its trigger. -/
  | single (effect : Effect) (ledger : Ledger) (source : σ)

namespace Call

variable {σ : Type}

/-- The effects that are handed over. -/
def effects : Call σ → List Effect
  | batch _ effects _ _ _ => effects
  | single effect _ _ => [effect]

def ledger : Call σ → Ledger
  | batch _ _ _ ledger _ => ledger
  | single _ ledger _ => ledger

/-- The source that is handed over. -/
def source : Call σ → σ
  | batch _ _ _ _ source => source
  | single _ _ source => source

variable [DrawSource σ]

/-- The reports of the call on a context, and the scene behind it. -/
def play (call : Call σ) (context : Context) : List EffectReport × Scene σ :=
  match call with
  | batch settings effects trigger ledger source =>
    Batch.process settings effects trigger ledger ⟨context, source⟩
  | single effect ledger source =>
    let (report, after) := effect.process ledger ⟨context, source⟩
    ([report], after)

/-- The reports of calls in order, and the context behind them. -/
def playAll : List (Call σ) → Context → List EffectReport × Context
  | [], context => ([], context)
  | call :: rest, context =>
    let (reports, after) := call.play context
    let (others, last) := playAll rest after.context
    (reports ++ others, last)

variable {calls : List (Call σ)} {context : Context}

/-- What every effect of a call keeps, the call keeps, and every report is made in a scene that
still has it. -/
theorem play_keeps (call : Call σ) {I : Scene σ → Prop}
    (hkeep : ∀ effect ∈ call.effects, ∀ scene, I scene →
      I (effect.process call.ledger scene).2)
    (hstart : I ⟨context, call.source⟩) :
    I (call.play context).2 ∧
      ∀ report ∈ (call.play context).1, ∃ effect ∈ call.effects, ∃ mid after,
        I mid ∧ effect.process call.ledger mid = (report, after) := by
  cases call with
  | batch settings effects trigger ledger source =>
      exact Batch.process_keeps settings trigger ledger hkeep hstart
  | single effect ledger source =>
      refine ⟨hkeep effect List.mem_cons_self _ hstart, fun report hreport => ?_⟩
      obtain rfl := List.mem_singleton.mp hreport
      exact ⟨effect, List.mem_cons_self, ⟨context, source⟩, _, hstart, rfl⟩

/-- What every call keeps of the context, the run keeps, and every report is made by a call on a
context that still has it. -/
theorem playAll_keeps {J : Context → Prop}
    (hkeep : ∀ call ∈ calls, ∀ context, J context → J (call.play context).2.context)
    (hstart : J context) :
    J (playAll calls context).2 ∧
      ∀ report ∈ (playAll calls context).1, ∃ call ∈ calls, ∃ mid,
        J mid ∧ report ∈ (call.play mid).1 := by
  induction calls generalizing context with
  | nil => exact ⟨hstart, by simp [playAll]⟩
  | cons call rest ih =>
      obtain ⟨hlast, hreports⟩ := ih (fun c hc => hkeep c (List.mem_cons_of_mem _ hc))
        (hkeep call List.mem_cons_self context hstart)
      refine ⟨hlast, fun report hreport => ?_⟩
      rcases List.mem_append.mp hreport with hfirst | hrest
      · exact ⟨call, List.mem_cons_self, context, hstart, hfirst⟩
      · obtain ⟨other, hother, hmid⟩ := hreports report hrest
        exact ⟨other, List.mem_cons_of_mem _ hother, hmid⟩

end Call

/-- A relation that holds across every application holds across any number of calls. -/
theorem Footprint.playAll {σ : Type} [DrawSource σ] {allowed : Action → Prop}
    {R : Context → Context → Prop} (hR : Footprint allowed R) {calls : List (Call σ)}
    (hallowed : ∀ call ∈ calls, ∀ effect ∈ call.effects, ∀ action ∈ effect.actions, allowed action)
    (context : Context) :
    R context (Call.playAll calls context).2 ∧
      ∀ report ∈ (Call.playAll calls context).1, ∃ call ∈ calls, ∃ mid,
        R context mid ∧ report ∈ (call.play mid).1 := by
  refine Call.playAll_keeps (J := R context) (fun call hcall mid hmid => ?_) (hR.refl context)
  exact (call.play_keeps (I := fun scene => R context scene.context)
    (fun effect heffect scene hscene =>
      hR.trans hscene (hR.process (hallowed call hcall effect heffect) rfl)) hmid).1

end BattleItems
