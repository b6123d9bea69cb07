import Mathlib.Data.UInt
import BattleItems.Proofs.Commutation
import BattleItems.Proofs.RoundingError

/-!
# BattleItems.Proofs.Heals

What heals restore.

In naturals the HP behind a heal are the sum, clamped to the maximum (`Action.IsFixedHeal.execute`).
Clamped sums add up, and so a list of heals brings a creature to the sum of all amounts, clamped
once (`Action.executeAll_fixedHeals`).

The amount of a heal by a percentage is a product that is rounded, divided by one hundred and
rounded again. Up to `2⁵³` the product is exact and the quotient is rounded to no other whole number
(`Binary64.roundToGrid_div_one`); from there on the share is too much for a word, rounded or not
(`Creature.toNat_shareOfMaxHp`).
-/

namespace BattleItems

open Binary64

/-! ### A share of the maximum -/

namespace Binary64

/-- The part before the point. -/
def wholePart : Binary64 → Nat
  | finite _ magnitude => magnitude.units / one
  | nan | infinite _ => 0

variable {x y : Binary64} {k n : Nat}

/-- A whole number that is not below zero is the one before its point, or the negative zero. -/
theorem isUnits_wholePart (hamount : x.IsAmount) (hwhole : x.isWhole = true) :
    x.IsUnits (x.wholePart * one) ∨ ∃ magnitude, x = finite true magnitude ∧ x.wholePart = 0 := by
  obtain ⟨hfinite, place, hplace, hlower⟩ := hamount
  cases x with
  | nan | infinite _ => cases hfinite
  | finite negative magnitude =>
      cases negative with
      | false =>
          have hunits : magnitude.units % one = 0 := of_decide_eq_true hwhole
          exact Or.inl ⟨magnitude, rfl, (Nat.div_mul_cancel (Nat.dvd_of_mod_eq_zero hunits)).symm⟩
      | true =>
          obtain rfl : -(magnitude.units : Int) = place := Option.some.inj hplace
          have hzero : magnitude.units = 0 := by omega
          exact Or.inr ⟨magnitude, rfl, by rw [wholePart, hzero, Nat.zero_div]⟩

theorem isUnits_hundred : (100 : Binary64).IsUnits (100 * one) := by
  have hunits : (ofNat 100).IsUnits (100 * one) := isUnits_ofNat (by decide)
  exact hunits

theorem hundred_units_pos : 0 < 100 * one := Nat.mul_pos (by decide) one_pos

/-- Below `2⁵³` the product of whole numbers is exact. -/
theorem isUnits_mul_of_lt (hx : x.IsUnits (k * one)) (hy : y.IsUnits (n * one))
    (h : k * n < 2 ^ 53) : (x * y).IsUnits (k * n * one) := by
  have hproduct : roundToGrid (k * one * (n * one)) one = k * n * one := by
    calc roundToGrid (k * one * (n * one)) one = roundToGrid (k * n * one) 1 :=
          roundToGrid_eq_of_ratio one_pos Nat.one_pos (by ring)
      _ = k * n * one := roundToGrid_of_onGrid (onGrid_mul_one (Nat.le_of_lt h))
  have hunits := hx.mul hy (by
    rw [hproduct]
    exact mul_one_lt_overflow (Nat.le_of_lt h))
  rwa [hproduct] at hunits

/-- A hundredth of a whole number below `2⁵³`, rounded down to a word. -/
theorem toNat_floorWord_div_hundred (hx : x.IsUnits (k * one)) (h : k < 2 ^ 53) :
    (x / 100).floorWord.toNat = min (k / 100) (UInt32.size - 1) := by
  have hquotient : roundToGrid (k * one * one) (100 * one) = roundToGrid (k * one) 100 :=
    roundToGrid_eq_of_ratio hundred_units_pos (by decide) (by ring)
  rw [hx.div_eq isUnits_hundred hundred_units_pos, toNat_floorWord_ofUnits, hquotient,
    roundToGrid_div_one h (by decide) (by decide)]

/-- A hundredth of what is past `2⁵³` is too much for a word. -/
theorem toNat_floorWord_div_hundred_of_le {units : Nat} (hx : x.IsUnits units)
    (h : 2 ^ 53 * one ≤ units) : (x / 100).floorWord.toNat = UInt32.size - 1 := by
  rw [hx.div_eq isUnits_hundred hundred_units_pos, toNat_floorWord_ofUnits]
  apply Nat.min_eq_right
  rw [Nat.le_div_iff_mul_le one_pos]
  apply le_roundToGrid_of_onGrid (onGrid_mul_one (by decide)) hundred_units_pos
  calc (UInt32.size - 1) * one * (100 * one) = (UInt32.size - 1) * 100 * one * one := by ring
    _ ≤ 2 ^ 53 * one * one := by gcongr; decide
    _ ≤ units * one := Nat.mul_le_mul_right one h

/-- The product from `2⁵³` on may be rounded, and it may be infinite; a hundredth of it is too much
for a word in either case. -/
theorem toNat_floorWord_mul_div_hundred_of_le (hx : x.IsUnits (k * one))
    (hy : y.IsUnits (n * one)) (h : 2 ^ 53 ≤ k * n) :
    (x * y / 100).floorWord.toNat = UInt32.size - 1 := by
  rcases Nat.lt_or_ge (roundToGrid (k * one * (n * one)) one) overflow with hfits | hover
  · refine toNat_floorWord_div_hundred_of_le (hx.mul hy hfits) ?_
    apply le_roundToGrid_of_onGrid (onGrid_mul_one (Nat.le_refl _)) one_pos
    calc 2 ^ 53 * one * one ≤ k * n * one * one := by gcongr
      _ = k * one * (n * one) := by ring
  · rw [hx.mul_eq hy, ofUnits_of_overflow_le false hover, isUnits_hundred.infinite_div]
    rfl

/-- A hundredth of the product of whole numbers, rounded down to a word, is the exact one. -/
theorem toNat_floorWord_mul_div_hundred (hx : x.IsUnits (k * one)) (hy : y.IsUnits (n * one)) :
    (x * y / 100).floorWord.toNat = min (k * n / 100) (UInt32.size - 1) := by
  rcases Nat.lt_or_ge (k * n) (2 ^ 53) with hsmall | hlarge
  · exact toNat_floorWord_div_hundred (isUnits_mul_of_lt hx hy hsmall) hsmall
  · rw [toNat_floorWord_mul_div_hundred_of_le hx hy hlarge]
    have hsize : UInt32.size = 2 ^ 32 := rfl
    omega

end Binary64

/-- The share of a whole percentage is the exact one, rounded down and clamped to a word. -/
theorem Creature.toNat_shareOfMaxHp (creature : Creature) {percent : Binary64}
    (hamount : percent.IsAmount) (hwhole : percent.isWhole = true) :
    (creature.shareOfMaxHp percent).toNat =
      min (creature.maxHp.toNat * percent.wholePart / 100) (UInt32.size - 1) := by
  have hmax : (ofNat creature.maxHp.toNat).IsUnits (creature.maxHp.toNat * one) :=
    isUnits_ofNat (Nat.le_trans (Nat.le_of_lt creature.maxHp.toNat_lt) (by decide))
  unfold shareOfMaxHp
  rcases isUnits_wholePart hamount hwhole with hunits | ⟨magnitude, hnegative, hzero⟩
  · exact toNat_floorWord_mul_div_hundred hmax hunits
  · have hbelow : (ofNat creature.maxHp.toNat * percent / 100).isNegative = true := by
      rw [isUnits_hundred.isNegative_div hundred_units_pos, hnegative, hmax.isNegative_mul]
    rw [floorWord_of_isNegative hbelow, hzero, Nat.mul_zero, Nat.zero_div, Nat.zero_min]
    rfl

/-! ### Actions -/

/-- The HP that a change restores. -/
def Change.healedHp : Change → Nat
  | healed amount => amount.toNat
  | _ => 0

/-- The HP that a kind offers as a fixed amount. -/
def ActionKind.fixedHp : ActionKind → Nat
  | healFixed amount => amount.toNat
  | _ => 0

namespace Action

variable {σ : Type} [DrawSource σ] {action : Action} {actions : List Action} {target : Target}
  {scene : Scene σ} {creature : Creature}

/-- **A heal by a whole percentage restores the exact share, rounded down.** On a hurt creature it
succeeds; what it restores and reports is the share in exact arithmetic, as far as there is room. So
from one hundred percent on it heals to the maximum, also where the product of the maximum and the
percentage is past the largest double. -/
theorem percentage_heal_restores_share {percent : Binary64}
    (hkind : action.kind = .healPercentage percent) (hungated : action.IsUngated)
    (hpresent : scene.context.target? action.target = some creature)
    (hhurt : creature.hp < creature.maxHp) (hpercent : percent.isNonNegative = true)
    (hwhole : percent.isWhole = true) :
    ∃ report healed, action.execute scene =
        .ok report (scene.update action.target { creature with hp := creature.hp + healed }) ∧
      report.success = true ∧
      report.change = .healed healed ∧
      healed.toNat = min (creature.maxHp.toNat * percent.wholePart / 100)
        (creature.maxHp.toNat - creature.hp.toNat) ∧
      (creature.hp + healed).toNat = creature.hp.toNat + healed.toNat ∧
      (100 ≤ percent.wholePart → creature.hp + healed = creature.maxHp) := by
  have hchange : action.kind.creatureChange? = some fun creature =>
      if percent.isNonNegative then creature.restore (creature.shareOfMaxHp percent)
      else .error (.notNonNegative "heal percentage" percent) creature := by
    rw [hkind]
    rfl
  obtain ⟨healed, hrestore, hhealed, hsum⟩ :=
    Creature.restore_of_hurt hhurt (creature.shareOfMaxHp percent)
  have hrun := execute_of_creatureChange? hchange (hungated.gate_eq ..) hpresent
    (by rw [if_pos hpercent, hrestore])
  have hmax := creature.maxHp.toNat_lt
  have hsize : UInt32.size = 2 ^ 32 := rfl
  rw [creature.toNat_shareOfMaxHp (isNonNegative_iff.mp hpercent) hwhole] at hhealed
  refine ⟨_, healed, hrun, rfl, rfl, by omega, hsum, fun hall => ?_⟩
  have hshare : creature.maxHp.toNat ≤ creature.maxHp.toNat * percent.wholePart / 100 := by
    rw [Nat.le_div_iff_mul_le (by decide)]
    exact Nat.mul_le_mul_left _ hall
  rw [UInt32.lt_iff_toNat_lt] at hhurt
  apply UInt32.toNat_inj.mp
  omega

/-- Half of an odd maximum, and a percentage that the maximum multiplies past the largest double. -/
theorem percentage_heal_restores_share_half :
    let creature : Creature := { species := "eevee", hp := 1, maxHp := 45 }
    let scene : Scene Recorded := ⟨{ creature }, { words := [] }⟩
    let huge : Binary64 := ofNat (2 ^ 1023)
    let half : Action := { kind := .healPercentage 50 }
    let flood : Action := { kind := .healPercentage huge }
    (∃ report, half.execute scene =
        .ok report ⟨{ creature := { creature with hp := 23 } }, scene.source⟩ ∧
      report.change = .healed 22) ∧
      (ofNat 45 * huge).isFinite = false ∧
      ∃ report, flood.execute scene =
        .ok report ⟨{ creature := { creature with hp := 45 } }, scene.source⟩ := by
  intro creature scene huge half flood
  have hhalf : half.kind = .healPercentage 50 := rfl
  have hflood : flood.kind = .healPercentage huge := rfl
  have hpresent : scene.context.target? .user = some creature := rfl
  refine ⟨?_, by decide +kernel, ?_⟩
  · obtain ⟨report, healed, hrun, -, hchange, hhealed, -, -⟩ :=
      percentage_heal_restores_share hhalf ⟨rfl, rfl⟩ hpresent (by decide) (by decide +kernel)
        (by decide +kernel)
    obtain rfl : healed = 22 := UInt32.toNat_inj.mp (hhealed.trans (by decide +kernel))
    exact ⟨report, hrun, hchange⟩
  · obtain ⟨report, healed, hrun, -, -, -, -, hall⟩ :=
      percentage_heal_restores_share hflood ⟨rfl, rfl⟩ hpresent (by decide) (by decide +kernel)
        (by decide +kernel)
    rw [hall (by decide +kernel)] at hrun
    exact ⟨report, hrun⟩

/-! ### Any number of heals -/

/-- A heal by a fixed amount, aimed at this creature and without gates of its own. -/
structure IsFixedHeal (action : Action) (target : Target) : Prop where
  aims : action.target = target
  heals : ∃ amount, action.kind = .healFixed amount
  ungated : action.IsUngated

/-- What one heal makes of the HP of a creature and what it tells of it, in naturals. -/
structure HealStep (amount : Nat) (maxHp before after : UInt32) (report : ActionReport) : Prop where
  inRange : before ≤ maxHp
  clamped : after.toNat = min maxHp.toNat (before.toNat + amount)
  told : before.toNat + report.change.healedHp = after.toNat
  failed_iff : report.success = false ↔ before = maxHp

theorem le_of_toNat_eq_min {hp maxHp : UInt32} {n : Nat} (h : hp.toNat = min maxHp.toNat n) :
    hp ≤ maxHp := by
  rw [UInt32.le_iff_toNat_le, h]
  exact Nat.min_le_left _ _

/-- The sum of the amounts that the actions offer. -/
def fixedHp (actions : List Action) : Nat := (actions.map fun action => action.kind.fixedHp).sum

/-- The sum of the HP that the reports tell of. -/
def healedHp (reports : List ActionReport) : Nat :=
  (reports.map fun report => report.change.healedHp).sum

@[simp] theorem fixedHp_cons (action : Action) (rest : List Action) :
    fixedHp (action :: rest) = action.kind.fixedHp + fixedHp rest := rfl

@[simp] theorem healedHp_cons (report : ActionReport) (reports : List ActionReport) :
    healedHp (report :: reports) = report.change.healedHp + healedHp reports := rfl

/-- Every heal is a step. -/
theorem IsFixedHeal.execute (h : action.IsFixedHeal target)
    (hpresent : scene.context.target? target = some creature)
    (hle : creature.hp ≤ creature.maxHp) :
    ∃ report after, action.execute scene =
        .ok report (scene.update target { creature with hp := after }) ∧
      HealStep action.kind.fixedHp creature.maxHp creature.hp after report := by
  obtain ⟨rfl, ⟨amount, hkind⟩, hungated⟩ := h
  have hchange : action.kind.creatureChange? = some (·.restore amount) := by
    rw [hkind]
    rfl
  have hamount : action.kind.fixedHp = amount.toNat := by
    rw [hkind]
    rfl
  rw [hamount]
  rcases UInt32.lt_or_eq_of_le hle with hhurt | hfull
  · obtain ⟨healed, hrestore, hhealed, hsum⟩ := Creature.restore_of_hurt hhurt amount
    have hrun := execute_of_creatureChange? hchange (hungated.gate_eq ..) hpresent hrestore
    rw [UInt32.lt_iff_toNat_lt] at hhurt
    refine ⟨_, _, hrun, hle, by omega, hsum.symm, ?_⟩
    constructor
    · intro hfailed
      cases hfailed
    · intro hfull
      exact absurd (congrArg UInt32.toNat hfull) (Nat.ne_of_lt hhurt)
  · have hrestore := Creature.restore_of_full hfull amount
    have hrun := execute_of_creatureChange? hchange (hungated.gate_eq ..) hpresent hrestore
    refine ⟨_, creature.hp, hrun, hle, ?_, rfl, fun _ => hfull, fun _ => rfl⟩
    rw [hfull]
    exact (Nat.min_eq_left (Nat.le_add_right _ _)).symm

/-- Clamped steps add up: a list of heals comes to the sum of the amounts, clamped once. -/
theorem executeAll_fixedHeals (hheals : ∀ action ∈ actions, action.IsFixedHeal target)
    (hpresent : scene.context.target? target = some creature)
    (hle : creature.hp ≤ creature.maxHp) :
    ∃ reports last, executeAll actions scene =
        .ok reports (scene.update target { creature with hp := last }) ∧
      last.toNat = min creature.maxHp.toNat (creature.hp.toNat + fixedHp actions) ∧
      creature.hp.toNat + healedHp reports = last.toNat := by
  -- The creature that the rest of the list finds is the one that the first heal leaves.
  induction actions generalizing scene creature with
  | nil =>
      refine ⟨[], creature.hp, ?_, (Nat.min_eq_right (UInt32.le_iff_toNat_le.mp hle)).symm, rfl⟩
      rw [Scene.update, Context.update_of_target? hpresent]
      rfl
  | cons action rest ih =>
      obtain ⟨hfirst, hrest⟩ := List.forall_mem_cons.mp hheals
      obtain ⟨report, mid, hrun, hstep⟩ := hfirst.execute hpresent hle
      have hpresentMid : (scene.update target { creature with hp := mid }).context.target? target =
          some { creature with hp := mid } := Context.target?_update_self ..
      obtain ⟨reports, last, hbehind, hclamped, htold⟩ :=
        ih hrest hpresentMid (le_of_toNat_eq_min hstep.clamped)
      have hclampedFirst := hstep.clamped
      have htoldFirst := hstep.told
      simp only [Scene.update, Context.update_update] at hbehind hclamped htold
      refine ⟨report :: reports, last,
        executeAll_cons_ok_iff.mpr ⟨report, _, reports, hrun, hbehind, rfl⟩, ?_, ?_⟩
      · rw [fixedHp_cons]
        omega
      · rw [healedHp_cons]
        omega

/-- Every heal in a list is a step, from the HP that those before it leave. -/
theorem healStep_of_executeAll {first rest : List Action} {reports : List ActionReport}
    {last : UInt32}
    (hheals : ∀ heal ∈ first ++ action :: rest, heal.IsFixedHeal target)
    (hpresent : scene.context.target? target = some creature)
    (hle : creature.hp ≤ creature.maxHp)
    (hrun : executeAll (first ++ action :: rest) scene =
      .ok reports (scene.update target { creature with hp := last })) :
    let healedTo (hp : UInt32) := scene.update target { creature with hp }
    ∃ earlier report later before after, reports = earlier ++ report :: later ∧
      executeAll first scene = .ok earlier (healedTo before) ∧
      action.execute (healedTo before) = .ok report (healedTo after) ∧
      HealStep action.kind.fixedHp creature.maxHp before after report := by
  intro healedTo
  have hpresentAfter (hp : UInt32) : (healedTo hp).context.target? target =
      some { creature with hp } := Context.target?_update_self ..
  obtain ⟨hfirst, hbehind⟩ := List.forall_mem_append.mp hheals
  obtain ⟨haction, hrest⟩ := List.forall_mem_cons.mp hbehind
  -- The list is run in three parts; what they report is what the whole list reports.
  obtain ⟨earlier, before, hrunFirst, hbefore, -⟩ := executeAll_fixedHeals hfirst hpresent hle
  obtain ⟨report, after, hrunAction, hstep⟩ :=
    haction.execute (hpresentAfter before) (le_of_toNat_eq_min hbefore)
  obtain ⟨later, _, hrunRest, -, -⟩ :=
    executeAll_fixedHeals hrest (hpresentAfter after) (le_of_toNat_eq_min hstep.clamped)
  simp only [healedTo, Scene.update, Context.update_update] at hrunAction
  have hwhole := executeAll_append hrunFirst
    (executeAll_cons_ok_iff.mpr ⟨report, _, later, hrunAction, hrunRest, rfl⟩)
  obtain ⟨rfl, -⟩ := EStateM.Result.ok.inj (hrun.symm.trans hwhole)
  exact ⟨earlier, report, later, before, after, rfl, hrunFirst, hrunAction, hstep⟩

theorem fixedHp_perm {others : List Action} (h : others.Perm actions) :
    fixedHp others = fixedHp actions :=
  (h.map _).sum_nat

/-- **Fixed heals add up and are clamped once.** A list of them on a creature whose HP make sense is
no fault. It leaves the HP at the sum of all amounts, clamped to the maximum, and reports what was
restored on the way. Every heal in the list is a step from the HP that those before it leave, and it
fails exactly where these are at the maximum. Only the sum counts: any other list of fixed heals
with the same sum leaves the same HP, and so does the list in any other order. -/
theorem fixed_heals_add_up (hheals : ∀ action ∈ actions, action.IsFixedHeal target)
    (hpresent : scene.context.target? target = some creature)
    (hle : creature.hp ≤ creature.maxHp) :
    let healedTo (hp : UInt32) := scene.update target { creature with hp }
    ∃ reports last, executeAll actions scene = .ok reports (healedTo last) ∧
      last.toNat = min creature.maxHp.toNat (creature.hp.toNat + fixedHp actions) ∧
      creature.hp.toNat + healedHp reports = last.toNat ∧
      (∀ first action rest, actions = first ++ action :: rest →
        ∃ earlier report later before after, reports = earlier ++ report :: later ∧
          executeAll first scene = .ok earlier (healedTo before) ∧
          action.execute (healedTo before) = .ok report (healedTo after) ∧
          HealStep action.kind.fixedHp creature.maxHp before after report) ∧
      (∀ others : List Action, (∀ action ∈ others, action.IsFixedHeal target) →
        fixedHp others = fixedHp actions →
        ∃ otherReports, executeAll others scene = .ok otherReports (healedTo last)) ∧
      (∀ others : List Action, others.Perm actions →
        ∃ otherReports, executeAll others scene = .ok otherReports (healedTo last)) := by
  intro healedTo
  obtain ⟨reports, last, hrun, hclamped, htold⟩ := executeAll_fixedHeals hheals hpresent hle
  have hothers : ∀ others : List Action, (∀ action ∈ others, action.IsFixedHeal target) →
      fixedHp others = fixedHp actions →
      ∃ otherReports, executeAll others scene = .ok otherReports (healedTo last) := by
    intro others hothers hsum
    obtain ⟨otherReports, otherLast, hotherRun, hotherClamped, -⟩ :=
      executeAll_fixedHeals hothers hpresent hle
    rw [hsum, ← hclamped] at hotherClamped
    obtain rfl := UInt32.toNat_inj.mp hotherClamped
    exact ⟨otherReports, hotherRun⟩
  refine ⟨reports, last, hrun, hclamped, htold, ?_, hothers, ?_⟩
  · rintro first action rest rfl
    exact healStep_of_executeAll hheals hpresent hle hrun
  · intro others hperm
    exact hothers others (fun action hmem => hheals action (hperm.mem_iff.mp hmem))
      (fixedHp_perm hperm)

/-- A potion, a heal by all that a word holds, and a berry for a creature at its maximum, in two
orders. -/
theorem fixed_heals_add_up_potion :
    let creature : Creature := { species := "eevee", hp := 10, maxHp := 50 }
    let scene : Scene Recorded := ⟨{ creature }, { words := [] }⟩
    let potion : Action := { kind := .healFixed 20 }
    let elixir : Action := { kind := .healFixed 4294967295 }
    let berry : Action := { kind := .healFixed 7 }
    let healed : Scene Recorded := ⟨{ creature := { creature with hp := 50 } }, scene.source⟩
    ∃ reports others, executeAll [potion, elixir, berry] scene = .ok reports healed ∧
      healedHp reports = 40 ∧
      executeAll [berry, elixir, potion] scene = .ok others healed := by
  intro creature scene potion elixir berry healed
  have hfixed (amount : UInt32) : ({ kind := .healFixed amount } : Action).IsFixedHeal .user :=
    ⟨rfl, ⟨amount, rfl⟩, rfl, rfl⟩
  have hheals : ∀ action ∈ [potion, elixir, berry], action.IsFixedHeal .user := by
    simp only [List.forall_mem_cons, potion, elixir, berry, hfixed, true_and]
    exact List.forall_mem_nil _
  have hpresent : scene.context.target? .user = some creature := rfl
  obtain ⟨reports, last, hrun, hclamped, htold, -, -, hreorder⟩ :=
    fixed_heals_add_up hheals hpresent (by decide)
  have hlast : last = 50 := UInt32.toNat_inj.mp (hclamped.trans (by decide))
  have hreverse : [berry, elixir, potion].Perm [potion, elixir, berry] :=
    List.reverse_perm [potion, elixir, berry]
  obtain ⟨others, hothers⟩ := hreorder [berry, elixir, potion] hreverse
  subst hlast
  have htotal : 10 + healedHp reports = 50 := htold
  exact ⟨reports, others, hrun, by omega, hothers⟩

end Action

end BattleItems
