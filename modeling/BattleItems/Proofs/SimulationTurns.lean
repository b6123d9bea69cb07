import BattleItems.Command.Run
import BattleItems.Proofs.UsageLimits

/-!
# BattleItems.Proofs.SimulationTurns

The turns that a simulation counts.

A call of a simulation plays a round, and no action moves the turn, so the call and what it records
are on one turn; then the turn ends. The invariant over the calls is the turn of the battle
(`Context.InBattleOn`), a natural number below the size of a word. A call either ends its turn, and
the next one is on the turn behind it (`Simulation.call_of_fits`), or it is on the largest word and
panics (`Simulation.call_of_last`). Nothing keeps a simulation from getting there, as every turn
that fits a word is read and so is every number of calls: it panics exactly if the turn behind its
last call is no word any more.
-/

namespace BattleItems

/-! ### One turn -/

/-- The context is in a battle, on a turn. -/
def Context.InBattleOn (context : Context) (turn : Nat) : Prop :=
  ∃ battle, context.battle = some battle ∧ battle.turn.toNat = turn

namespace Context.InBattleOn

variable {context after : Context} {turn : Nat}

theorem lt_size (h : context.InBattleOn turn) : turn < 2 ^ 32 := by
  obtain ⟨battle, -, rfl⟩ := h
  exact battle.turn.toNat_lt

theorem toNat_currentTurn (h : context.InBattleOn turn) : context.currentTurn.toNat = turn := by
  obtain ⟨battle, hbattle, rfl⟩ := h
  simp only [currentTurn, hbattle]

theorem treated (h : context.InBattleOn turn) (htreated : context.Treated after) :
    after.InBattleOn turn := by
  obtain ⟨battle, hbattle, rfl⟩ := h
  have hrel := htreated.battle
  rw [hbattle] at hrel
  obtain ⟨later, hlater, hsame⟩ : ∃ later, after.battle = some later ∧ battle.Treated later := by
    generalize after.battle = left at hrel
    cases hrel with
    | some hsame => exact ⟨_, rfl, hsame⟩
  exact ⟨later, hlater, congrArg UInt32.toNat hsame.turn_eq⟩

/-- A turn below the largest word ends in the one behind it. -/
theorem nextTurn_of_fits (h : context.InBattleOn turn) (hfits : turn + 1 < 2 ^ 32) :
    ∃ next, context.nextTurn = .ok next ∧ next.InBattleOn (turn + 1) := by
  obtain ⟨battle, hbattle, rfl⟩ := h
  have hnext : battle.nextTurn = .ok { battle with turn := battle.turn + 1 } := if_pos hfits
  refine ⟨_, by simp only [Context.nextTurn, hbattle, hnext]; rfl, _, rfl, ?_⟩
  rw [UInt32.toNat_add]
  exact Nat.mod_eq_of_lt hfits

/-- There is no turn behind the largest word. -/
theorem nextTurn_of_last (h : context.InBattleOn turn) (hlast : turn + 1 = 2 ^ 32) :
    context.nextTurn = .error .sumOverflow := by
  obtain ⟨battle, hbattle, rfl⟩ := h
  have hnext : battle.nextTurn = .error .sumOverflow := if_neg (Nat.not_lt_of_ge hlast.ge)
  simp only [Context.nextTurn, hbattle, hnext]
  rfl

end Context.InBattleOn

namespace Simulation

variable {σ : Type} [DrawSource σ]

/-! ### One call -/

/-- The round that the next call plays. -/
def round (setup : Setup) (simulation : Simulation σ) : Round σ :=
  ⟨setup.effects, setup.trigger, setup.settings, simulation.scene⟩

/-- The reports of the next call. -/
def reports (setup : Setup) (simulation : Simulation σ) : List EffectReport :=
  ((simulation.round setup).play simulation.ledger).1

/-- The turn on which the next call is recorded. -/
def recordingTurn (setup : Setup) (simulation : Simulation σ) : UInt32 :=
  (simulation.round setup).turn simulation.ledger

/-- A call that is made on a turn: it sees the turn, and its reports are recorded on the turn. -/
structure CallOn (setup : Setup) (turn : Nat) (simulation after : Simulation σ) : Prop where
  call_eq : simulation.call setup = .ok after
  seen : simulation.scene.context.currentTurn.toNat = turn
  recorded : (simulation.recordingTurn setup).toNat = turn
  ledger_eq : after.ledger = simulation.ledger.recordReports (simulation.reports setup)
    (simulation.recordingTurn setup)
  calls_eq : after.calls = simulation.calls.push (simulation.reports setup)

variable {setup : Setup} {simulation : Simulation σ} {scene : Scene σ} {turn times : Nat}

/-- What a call comes to, by what comes of the turn at its end. -/
theorem call_eq (setup : Setup) (simulation : Simulation σ) :
    let after := ((simulation.round setup).play simulation.ledger).2
    simulation.call setup = after.context.nextTurn.map fun context =>
      { scene := { after with context },
        ledger := simulation.ledger.recordReports (simulation.reports setup)
          (simulation.recordingTurn setup),
        calls := simulation.calls.push (simulation.reports setup) } := by
  intro after
  show (after.context.nextTurn >>= fun context => pure _) = _
  cases after.context.nextTurn <;> rfl

theorem toNat_recordingTurn (setup : Setup) (h : simulation.scene.context.InBattleOn turn) :
    (simulation.recordingTurn setup).toNat = turn :=
  (congrArg UInt32.toNat ((simulation.round setup).turn_eq simulation.ledger)).trans
    h.toNat_currentTurn

/-- A round does not leave its turn. -/
theorem inBattleOn_play (setup : Setup) (h : simulation.scene.context.InBattleOn turn) :
    ((simulation.round setup).play simulation.ledger).2.context.InBattleOn turn :=
  h.treated (treated_footprint.batch fun _ _ _ _ => trivial).1

theorem call_of_fits (setup : Setup) (h : simulation.scene.context.InBattleOn turn)
    (hfits : turn + 1 < 2 ^ 32) :
    ∃ after, CallOn setup turn simulation after ∧
      after.scene.context.InBattleOn (turn + 1) := by
  obtain ⟨next, hnext, hturn⟩ := (inBattleOn_play setup h).nextTurn_of_fits hfits
  have hcall := call_eq setup simulation
  simp only [hnext, Except.map] at hcall
  exact ⟨_, ⟨hcall, h.toNat_currentTurn, toNat_recordingTurn setup h, rfl, rfl⟩, hturn⟩

theorem call_of_last (setup : Setup) (h : simulation.scene.context.InBattleOn turn)
    (hlast : turn + 1 = 2 ^ 32) : simulation.call setup = .error .sumOverflow := by
  have hcall := call_eq setup simulation
  simp only [(inBattleOn_play setup h).nextTurn_of_last hlast, Except.map] at hcall
  exact hcall

/-! ### Any number of calls -/

/-- Calls one behind the other, each on the turn behind the one before it. -/
inductive CallsFrom (setup : Setup) : Nat → Nat → Simulation σ → Simulation σ → Prop
  | none {turn : Nat} {simulation : Simulation σ} :
      CallsFrom setup turn 0 simulation simulation
  | more {turn times : Nat} {simulation mid last : Simulation σ}
      (hcall : CallOn setup turn simulation mid)
      (hcalls : CallsFrom setup (turn + 1) times mid last) :
      CallsFrom setup turn (times + 1) simulation last

namespace CallsFrom

variable {last : Simulation σ}

/-- Each of the calls leaves its reports. -/
theorem size_calls (h : CallsFrom setup turn times simulation last) :
    last.calls.size = simulation.calls.size + times := by
  induction h with
  | none => rfl
  | more hcall _ ih =>
      rw [ih, hcall.calls_eq, Array.size_push]
      omega

/-- The calls are what a simulation makes first, however many it makes. -/
theorem callTimes_add (h : CallsFrom setup turn times simulation last) (more : Nat) :
    callTimes setup (times + more) simulation = callTimes setup more last := by
  induction h with
  | none => rw [Nat.zero_add]
  | more hcall _ ih =>
      rw [Nat.add_right_comm, callTimes, hcall.call_eq]
      exact ih

end CallsFrom

/-- As long as the turns fit a word, the calls are made on the turns from the first one on. -/
theorem callsFrom_of_fits (setup : Setup) (times : Nat) (simulation : Simulation σ)
    (h : simulation.scene.context.InBattleOn turn) (hfits : turn + times < 2 ^ 32) :
    ∃ last, CallsFrom setup turn times simulation last ∧
      last.scene.context.InBattleOn (turn + times) := by
  induction times generalizing simulation turn with
  | zero => exact ⟨simulation, .none, h⟩
  | succ times ih =>
      obtain ⟨mid, hcall, hmid⟩ := call_of_fits setup h (by omega)
      obtain ⟨last, hcalls, hlast⟩ := ih mid hmid (by omega)
      exact ⟨last, .more hcall hcalls, by rwa [Nat.add_right_comm] at hlast⟩

/-- The calls of a simulation end well: there are as many as asked for, at least one, and they are
made on the turns from `turn` on. -/
def CountsTurns (setup : Setup) (times : UInt32) (scene : Scene σ) (turn : Nat) : Prop :=
  ∃ last, run setup times scene = .ok last ∧ last.calls.size = max times.toNat 1 ∧
    CallsFrom setup turn (max times.toNat 1) { scene } last

/-- The calls of a simulation get to the largest word: those before it are made on the turns from
`turn` on. The one on it still plays its round and records it there, and then it panics and takes
the simulation with it. -/
def RunsOut (setup : Setup) (times : UInt32) (scene : Scene σ) (turn : Nat) : Prop :=
  run setup times scene = .error .sumOverflow ∧
    ∃ calls last, turn + calls + 1 = 2 ^ 32 ∧ CallsFrom setup turn calls { scene } last ∧
      last.scene.context.currentTurn.toNat = turn + calls ∧
      (last.recordingTurn setup).toNat = turn + calls ∧
      last.call setup = .error .sumOverflow

theorem countsTurns_of_fits (setup : Setup) {times : UInt32} (h : scene.context.InBattleOn turn)
    (hfits : turn + max times.toNat 1 < 2 ^ 32) : CountsTurns setup times scene turn := by
  obtain ⟨last, hcalls, -⟩ := callsFrom_of_fits setup (max times.toNat 1) { scene } h hfits
  refine ⟨last, hcalls.callTimes_add 0, ?_, hcalls⟩
  rw [hcalls.size_calls]
  exact Nat.zero_add _

theorem runsOut_of_not_fits (setup : Setup) {times : UInt32} (h : scene.context.InBattleOn turn)
    (hover : 2 ^ 32 ≤ turn + max times.toNat 1) : RunsOut setup times scene turn := by
  have hturn := h.lt_size
  obtain ⟨calls, hcalls⟩ : ∃ calls, turn + calls + 1 = 2 ^ 32 :=
    ⟨2 ^ 32 - 1 - turn, by omega⟩
  obtain ⟨last, hfirst, hlast⟩ := callsFrom_of_fits setup calls { scene } h (by omega)
  have hcall := call_of_last setup hlast hcalls
  refine ⟨?_, calls, last, hcalls, hfirst, hlast.toNat_currentTurn,
    toNat_recordingTurn setup hlast, hcall⟩
  -- The call that panics is one of those asked for.
  obtain ⟨rest, hrest⟩ : ∃ rest, max times.toNat 1 = calls + (rest + 1) :=
    ⟨max times.toNat 1 - (calls + 1), by omega⟩
  rw [run, hrest, hfirst.callTimes_add, callTimes, hcall]
  rfl

/-- **Turns of a simulation.** In a battle a simulation makes the calls that it is asked for, at
least one. Each of them plays its round in what the one before left and is recorded on the turn that
it sees: the turns from the first one on, counted as natural numbers. This holds exactly if the turn
behind the last call is still a word; otherwise the simulation panics at the end of the call on the
largest word. -/
theorem run_turns (setup : Setup) (times : UInt32) (scene : Scene σ) (turn : Nat)
    (h : scene.context.InBattleOn turn) :
    (turn + max times.toNat 1 < 2 ^ 32 → CountsTurns setup times scene turn) ∧
      (2 ^ 32 ≤ turn + max times.toNat 1 → RunsOut setup times scene turn) :=
  ⟨countsTurns_of_fits setup h, runsOut_of_not_fits setup h⟩

/-- A charm that needs a turn between its uses works on both of the last turns that are counted. A
turn later, the second call has no turn to end in. -/
theorem run_turns_charm :
    let charm : Effect := {
      id := "charm", trigger := .onUse, actions := [{ kind := .showMessage "It glows." }],
      restrictions := { cooldown := some 1 } }
    let setup : Setup := ⟨[charm], .onUse, {}⟩
    let scene (turn : UInt32) : Scene Pcg := ⟨{ battle := some { turn } }, .seeded 0⟩
    (scene 4294967293).context.InBattleOn 4294967293 ∧
      CountsTurns setup 2 (scene 4294967293) 4294967293 ∧
      (run setup 2 (scene 4294967293)).map (·.calls.toList.map (·.map (·.message))) =
        .ok [["It glows."], ["It glows."]] ∧
      (scene 4294967294).context.InBattleOn 4294967294 ∧
      RunsOut setup 2 (scene 4294967294) 4294967294 := by
  intro charm setup scene
  have hbattle : (scene 4294967293).context.InBattleOn 4294967293 := ⟨_, rfl, rfl⟩
  have hlate : (scene 4294967294).context.InBattleOn 4294967294 := ⟨_, rfl, rfl⟩
  obtain ⟨hcounts, -⟩ := run_turns setup 2 (scene 4294967293) 4294967293 hbattle
  obtain ⟨-, hover⟩ := run_turns setup 2 (scene 4294967294) 4294967294 hlate
  exact ⟨hbattle, hcounts (by decide), by decide +kernel, hlate, hover (by decide)⟩

/-- The same charm used twice from the largest word on. The context is read and the catalog is
valid, yet already the first of the two calls has no turn to end in: nothing at all is shown. -/
theorem turns_run_out :
    let charm : Effect := {
      id := "charm", trigger := .onUse, actions := [{ kind := .showMessage "It glows." }],
      restrictions := { cooldown := some 1 } }
    let catalog : Catalog := ⟨[{ id := "charm", effects := [charm] }]⟩
    let context : Context := { battle := some { turn := 4294967295 } }
    let request : SimulationRequest :=
      { catalog := "items.ron", item := "charm", context := "context.ron", times := 2 }
    catalog.issues = [] ∧
      Context.ofText "(battle: Some((turn: 4294967295)))" = .ok context ∧
      ¬CountsTurns ⟨[charm], .onUse, {}⟩ 2 ⟨context, Pcg.seeded 0⟩ 4294967295 ∧
      request.outcome catalog context {} = .panicked .sumOverflow := by
  intro charm catalog context request
  have hbattle : context.InBattleOn 4294967295 := ⟨_, rfl, rfl⟩
  refine ⟨by decide +kernel, by decide +kernel, ?_, by decide +kernel⟩
  rintro ⟨last, hrun, -⟩
  cases (runsOut_of_not_fits _ hbattle (by decide)).1.symm.trans hrun

end Simulation

end BattleItems
