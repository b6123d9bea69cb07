import BattleItems.Proofs.Outcomes
import BattleItems.Proofs.Templates

/-!
# BattleItems.Proofs.Messages

What the message of an action says where the action declares none.

The kind then words the message itself, with the species of the creature and the names of the action
in it, and that message goes through the placeholders once more. So it is kept word for word as
long as the texts in it open no placeholder (`Action.message_of_default`), and not where a species
looks like one (`Action.default_message_is_filled_in`). Numbers and the words of the vocabulary
never do.
-/

namespace BattleItems

/-! ### Texts that open no placeholder -/

/-- The text holds no opening brace. -/
def Template.IsLiteral (text : String) : Prop := '\x7b' ∉ text.toList

namespace Template

instance (text : String) : Decidable (IsLiteral text) :=
  inferInstanceAs (Decidable ('\x7b' ∉ text.toList))

variable {text : String}

@[simp] theorem isLiteral_append {other : String} :
    IsLiteral (text ++ other) ↔ IsLiteral text ∧ IsLiteral other := by
  simp [IsLiteral]

@[simp] theorem isLiteral_toString : IsLiteral (toString text) ↔ IsLiteral text := Iff.rfl

/-- No placeholder is written in a text without opening braces. -/
theorem IsLiteral.no_placeholder (h : IsLiteral text) (name : String) :
    ¬(Piece.placeholder name).source <:+: text.toList := by
  intro hwritten
  exact h (hwritten.subset (List.mem_append_left _ List.mem_cons_self))

theorem isLiteral_digits {chars : List Char} (h : ∀ c ∈ chars, c.isDigit = true) :
    '\x7b' ∉ chars := fun hmem => absurd (h _ hmem) (by decide)

theorem isLiteral_toDigits (n : Nat) : '\x7b' ∉ Nat.toDigits 10 n :=
  isLiteral_digits fun _ hc => Nat.isDigit_of_mem_toDigits (by decide) (by decide) hc

@[simp] theorem isLiteral_word (n : UInt32) : IsLiteral (toString n) := by
  change '\x7b' ∉ (toString n.toNat).toList
  rw [Nat.toString_eq_ofList_toDigits, String.toList_ofList]
  exact isLiteral_toDigits _

end Template

open Template

/-! ### Numbers and words -/

namespace Binary64

theorem not_mem_digits_ofScaled (n : Nat) (exponent : Int) :
    '\x7b' ∉ (DecimalDigits.ofScaled n exponent).digits := by
  intro hmem
  rw [DecimalDigits.ofScaled, List.mem_reverse] at hmem
  exact isLiteral_toDigits n (List.mem_reverse.mp (List.dropWhile_subset _ hmem))

theorem not_mem_digits_of_hit? {tie : Tie} {v : Vicinity} {exponent : Int} {d : DecimalDigits}
    (h : hit? tie v exponent = some d) : '\x7b' ∉ d.digits := by
  simp only [hit?] at h
  split at h
  · cases h
    exact not_mem_digits_ofScaled _ _
  · cases h
    exact not_mem_digits_ofScaled _ _
  · cases h
    exact not_mem_digits_ofScaled _ _
  · cases h

theorem not_mem_digits_shortest (tie : Tie) (units : Nat) :
    '\x7b' ∉ (shortest tie units).digits := by
  simp only [shortest]
  cases hfound : (List.range 17).findSome? fun (dropped : Nat) =>
      hit? tie (vicinity units) (leadingExponent units - dropped) with
  | none => exact not_mem_digits_ofScaled 0 0
  | some d =>
      obtain ⟨dropped, -, hhit⟩ := List.exists_of_findSome?_eq_some hfound
      exact not_mem_digits_of_hit? hhit

theorem not_mem_zeros (n : Int) : '\x7b' ∉ DecimalDigits.zeros n := fun hmem =>
  absurd (List.eq_of_mem_replicate hmem) (by decide)

theorem not_mem_positional {d : DecimalDigits} (h : '\x7b' ∉ d.digits) :
    '\x7b' ∉ d.positional false := by
  have htake : ∀ n, '\x7b' ∉ d.digits.take n := fun n hmem => h (List.mem_of_mem_take hmem)
  have hdrop : ∀ n, '\x7b' ∉ d.digits.drop n := fun n hmem => h (List.mem_of_mem_drop hmem)
  unfold DecimalDigits.positional
  split
  · simp [not_mem_zeros, h]
  · split
    · simp [not_mem_zeros, h]
    · simp [htake, hdrop]

theorem isLiteral_signed {negative : Bool} {chars : List Char} (h : '\x7b' ∉ chars) :
    IsLiteral (signed negative chars) := by
  unfold IsLiteral signed
  cases negative <;> simp [h]

@[simp] theorem isLiteral_text (x : Binary64) : IsLiteral (toString x) := by
  change IsLiteral x.text
  cases x with
  | nan => decide
  | infinite negative => exact isLiteral_signed (by decide)
  | finite negative magnitude =>
      simp only [text]
      split
      · exact isLiteral_signed (by decide)
      · exact isLiteral_signed (not_mem_positional (not_mem_digits_shortest _ _))

end Binary64

@[simp] theorem Status.isLiteral_label (status : Status) : IsLiteral (label status) := by
  cases status <;> decide

@[simp] theorem StatKind.isLiteral_label (stat : StatKind) : IsLiteral (label stat) := by
  cases stat <;> decide

@[simp] theorem Target.isLiteral_label (target : Target) : IsLiteral (label target) := by
  cases target <;> decide

@[simp] theorem isLiteral_stagePhrase (stages : Int32) : IsLiteral (stagePhrase stages) := by
  unfold stagePhrase
  repeat' split
  all_goals decide

/-! ### The messages of the kinds -/

section Creatures

variable {creature : Creature}

theorem Creature.restore_message {amount : UInt32} {effort : Effort} {later : Creature}
    (hspecies : IsLiteral creature.species) (h : creature.restore amount = .ok effort later) :
    IsLiteral effort.message := by
  unfold restore at h
  split at h
  · cases h
  · split at h
    · cases h
      exact (by decide : IsLiteral "Already at full HP")
    · cases h
      simp +decide [Effort.succeeded, hspecies]

theorem Creature.cure_message {wanted : Option Status} (hspecies : IsLiteral creature.species) :
    IsLiteral (creature.cure wanted).1.message := by
  unfold cure
  split
  · simp +decide [Effort.failed, hspecies]
  · split
    · simp +decide [Effort.succeeded, hspecies]
    · split
      · simp +decide [Effort.succeeded, hspecies]
      · simp +decide [Effort.failed, hspecies]

theorem Creature.boost_message {stat : StatKind} {stages : Int32}
    (hspecies : IsLiteral creature.species) :
    IsLiteral (creature.boost stat stages).1.message := by
  unfold boost
  split
  · simp +decide [Effort.failed, hspecies]
  · simp +decide [Effort.succeeded, hspecies]

theorem Creature.evolve_message {evolution : Evolution} (hspecies : IsLiteral creature.species)
    (hinto : IsLiteral evolution.into) : IsLiteral (creature.evolve evolution).1.message := by
  unfold evolve
  split
  · simp +decide [Effort.failed]
  · split
    · simp +decide [Effort.succeeded, hspecies, hinto]
    · simp +decide [Effort.failed, hspecies]

theorem Creature.learn_message {lesson : Lesson} (hspecies : IsLiteral creature.species)
    (hmove : IsLiteral lesson.move) : IsLiteral (creature.learn lesson).1.message := by
  simp only [learn]
  split
  · split
    · simp +decide [Effort.succeeded, hspecies, hmove]
    · simp +decide [Effort.succeeded, hspecies, hmove]
  · simp +decide [Effort.failed, hspecies, hmove]

end Creatures

theorem Context.onTarget_message {context after : Context} {target : Target} {effort : Effort}
    {change : Creature → Application Creature}
    (hchange : ∀ creature effort later, context.target? target = some creature →
      change creature = .ok effort later → IsLiteral effort.message)
    (h : context.onTarget target change = .ok effort after) : IsLiteral effort.message := by
  unfold onTarget at h
  split at h
  · cases h
    simp +decide [Effort.failed]
  · rename_i creature hpresent
    cases hresult : change creature with
    | error fault later =>
        rw [hresult] at h
        cases h
    | ok effort later =>
        rw [hresult] at h
        cases h
        exact hchange creature effort later hpresent hresult

/-- The names that an action of a kind puts into its message. -/
def ActionKind.insertedNames : ActionKind → List String
  | evolve evolution => [evolution.into]
  | teachMove lesson => [lesson.move]
  | unrecognized kind => [kind]
  | _ => []

/-- The texts that the message of a kind may take in: the species of the creature aimed at and the
names of the action. -/
def ActionKind.insertedTexts (kind : ActionKind) (target : Target) (context : Context) :
    List String :=
  ((context.target? target).map Creature.species).toList ++ kind.insertedNames

theorem ActionKind.apply_message {kind : ActionKind} {target : Target} {context after : Context}
    {effort : Effort} (hkind : ∀ text, kind ≠ .showMessage text)
    (htexts : ∀ text ∈ kind.insertedTexts target context, IsLiteral text)
    (h : kind.apply target context = .ok effort after) : IsLiteral effort.message := by
  have hspecies : ∀ creature, context.target? target = some creature →
      IsLiteral creature.species := fun creature hpresent =>
    htexts _ (by simp [insertedTexts, hpresent])
  have hnames : ∀ name ∈ kind.insertedNames, IsLiteral name := fun name hname =>
    htexts name (List.mem_append_right _ hname)
  cases kind with
  | healFixed amount =>
      exact Context.onTarget_message
        (fun _ _ _ hpresent hok => Creature.restore_message (hspecies _ hpresent) hok) h
  | healPercentage percent =>
      simp only [apply] at h
      split at h
      · exact Context.onTarget_message
          (fun _ _ _ hpresent hok => Creature.restore_message (hspecies _ hpresent) hok) h
      · cases h
  | cureStatus wanted =>
      refine Context.onTarget_message (fun creature _ _ hpresent hok => ?_) h
      cases hok
      exact Creature.cure_message (hspecies creature hpresent)
  | boostStat stat stages =>
      refine Context.onTarget_message (fun creature _ _ hpresent hok => ?_) h
      cases hok
      exact Creature.boost_message (hspecies creature hpresent)
  | evolve evolution =>
      refine Context.onTarget_message (fun creature _ _ hpresent hok => ?_) h
      cases hok
      exact Creature.evolve_message (hspecies creature hpresent)
        (hnames _ (List.mem_singleton_self _))
  | teachMove lesson =>
      refine Context.onTarget_message (fun creature _ _ hpresent hok => ?_) h
      cases hok
      exact Creature.learn_message (hspecies creature hpresent)
        (hnames _ (List.mem_singleton_self _))
  | modifyCatchRate multiplier =>
      simp only [apply, Context.multiplyCatchRate] at h
      split at h
      · split at h
        · cases h
          exact (by decide : IsLiteral "Can only be used in battle")
        · cases h
          simp +decide [Effort.succeeded]
      · cases h
  | consumeItem =>
      cases h
      decide
  | showMessage text => exact absurd rfl (hkind text)
  | preventWildEncounters steps =>
      cases h
      simp +decide [Context.repelFor, Effort.succeeded]
  | unrecognized name =>
      cases h
      simp +decide [Effort.failed, hnames name (List.mem_singleton_self _)]

/-! ### The message of a run -/

namespace Action

variable {σ : Type} [DrawSource σ]

theorem isPlain_of_mem_bindings {action : Action} {context : Context} :
    ∀ name ∈ (action.bindings context).map (·.1), IsPlain name :=
  (by decide : ∀ name ∈ ["value", "species", "target", "hp", "max_hp", "trainer", "location"],
    IsPlain name)

/-- **The message of an action that declares none.** It is the kind's own message with the
placeholders in it filled in. So it is the kind's own message word for word if no placeholder of a
known variable is written there; and if the species and the names that go into it open none, then
neither does the message. -/
theorem message_of_default {action : Action} {scene after : Scene σ} {report : ActionReport}
    {source : σ} (hkind : ∀ text, action.kind ≠ .showMessage text)
    (hsuccess : action.successMessage = none) (hfailure : action.failureMessage = none)
    (hgate : action.gate scene.context scene.source = .ok .passed source)
    (hrun : action.execute scene = .ok report after) :
    ∃ effort, action.kind.apply action.target scene.context = .ok effort after.context ∧
      report.message = action.render effort.message after.context ∧
      ((∀ name ∈ (action.bindings after.context).map (·.1),
          ¬(Piece.placeholder name).source <:+: effort.message.toList) →
        report.message = effort.message) ∧
      ((∀ text ∈ action.kind.insertedTexts action.target scene.context, IsLiteral text) →
        report.message = effort.message) := by
  have hend := action.execute_ending scene
  rw [hrun] at hend
  cases hend with
  | stopped hstopped => cases hgate.symm.trans hstopped
  | applied _ happly =>
      rename_i effort context _ _
      have hrendered : (action.report effort context).message =
          action.render effort.message context := by
        simp only [report, hsuccess, hfailure, ite_self, Option.getD_none]
      have hkept : (∀ name ∈ (action.bindings context).map (·.1),
          ¬(Piece.placeholder name).source <:+: effort.message.toList) →
          (action.report effort context).message = effort.message := fun hnone =>
        hrendered.trans (render_eq_self isPlain_of_mem_bindings hnone)
      refine ⟨effort, happly, hrendered, hkept, fun htexts => ?_⟩
      exact hkept fun name _ => (ActionKind.apply_message hkind htexts happly).no_placeholder name

/-- A heal tells what it did, although the trainer is called like a placeholder. -/
theorem message_of_default_heal :
    let action : Action := { kind := .healFixed 20 }
    let creature : Creature := { species := "eevee", hp := 20, maxHp := 50 }
    let scene : Scene Recorded :=
      ⟨{ creature, trainer := { name := "\x7bspecies\x7d" } }, { words := [] }⟩
    ∃ report after, action.gate scene.context scene.source = .ok .passed scene.source ∧
      action.execute scene = .ok report after ∧ report.message = "eevee recovered 20 HP" := by
  intro action creature scene
  let effort : Effort := .succeeded (.healed 20) "eevee recovered 20 HP" false
  let context : Context := { scene.context with creature := { creature with hp := 40 } }
  have happly : action.kind.apply action.target scene.context = .ok effort context := by cbv
  have hrun : action.execute scene = .ok (action.report effort context) { scene with context } := by
    rw [execute_of_isUngated ⟨rfl, rfl⟩, happly]
  have hgate : action.gate scene.context scene.source = .ok .passed scene.source := by rfl
  obtain ⟨other, hother, -, -, hkept⟩ :=
    message_of_default (fun _ => ActionKind.noConfusion) rfl rfl hgate hrun
  cases happly.symm.trans hother
  exact ⟨_, _, hgate, hrun, hkept (by decide)⟩

/-- **A species that looks like a placeholder is not kept.** The kind tells of the creature by the
name of its species; the report puts the name of the trainer there. -/
theorem default_message_is_filled_in :
    let action : Action := { kind := .healFixed 20 }
    let creature : Creature := { species := "\x7btrainer\x7d", hp := 20, maxHp := 50 }
    let scene : Scene Recorded := ⟨{ creature, trainer := { name := "Red" } }, { words := [] }⟩
    ∃ effort report after, action.gate scene.context scene.source = .ok .passed scene.source ∧
      action.kind.apply action.target scene.context = .ok effort after.context ∧
      action.execute scene = .ok report after ∧
      effort.message = "\x7btrainer\x7d recovered 20 HP" ∧
      report.message = "Red recovered 20 HP" := by
  intro action creature scene
  let effort : Effort := .succeeded (.healed 20) "\x7btrainer\x7d recovered 20 HP" false
  let context : Context := { scene.context with creature := { creature with hp := 40 } }
  have happly : action.kind.apply action.target scene.context = .ok effort context := by cbv
  have hrun : action.execute scene = .ok (action.report effort context) { scene with context } := by
    rw [execute_of_isUngated ⟨rfl, rfl⟩, happly]
  exact ⟨effort, _, _, by rfl, happly, hrun, rfl, by decide +kernel⟩

end Action

end BattleItems
