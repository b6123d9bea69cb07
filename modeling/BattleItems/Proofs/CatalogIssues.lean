import Mathlib.Data.List.Nodup
import BattleItems.Catalog.Issues

/-!
# BattleItems.Proofs.CatalogIssues

What the checks on a catalog look at, and that they leave nothing out.

The first part says, level by level, when nothing is found: in a condition, in an action, in an
effect. The second says that the way through the items and their effects passes every one of them
and keeps the declarations, so that a catalog has no issues exactly if no id is declared twice and
no effect has problems (`Catalog.issues_eq_nil_iff`). The third draws from it what is known of the
effects of a valid catalog: they have no problems, and an id names one of them.
-/

namespace BattleItems

/-! ### When nothing is found -/

theorem badProbability?_eq_none_iff {probability : Option Binary64} :
    badProbability? probability = none ↔
      ∀ value, probability = some value → value.isProbability = true := by
  cases probability with
  | none => simp [badProbability?]
  | some value => simp [badProbability?, Option.filter]

theorem Condition.problems_eq_nil_iff {condition : Condition} :
    condition.problems = [] ↔
      (∀ value, condition.probability = some value → value.isProbability = true) ∧
        condition.kind.problems = [] := by
  rw [problems, List.append_eq_nil_iff, Option.toList_eq_nil_iff, Option.map_eq_none_iff,
    badProbability?_eq_none_iff]

namespace Action

theorem problems_eq_nil_iff {action : Action} :
    action.problems = [] ↔
      (∀ value, action.chance = some value → value.isProbability = true) ∧
        (∀ condition ∈ action.conditions, condition.problems = []) ∧
        action.kind.problems = [] := by
  rw [problems, List.append_eq_nil_iff, List.append_eq_nil_iff, Option.toList_eq_nil_iff,
    Option.map_eq_none_iff, badProbability?_eq_none_iff, List.flatMap_eq_nil_iff, and_assoc]

theorem listProblems_eq_nil_iff {index : Nat} {actions : List Action} :
    listProblems index actions = [] ↔ ∀ action ∈ actions, action.problems = [] := by
  induction actions generalizing index with
  | nil => simp [listProblems]
  | cons action rest ih =>
      rw [listProblems, List.append_eq_nil_iff, List.map_eq_nil_iff, ih, List.forall_mem_cons]

end Action

theorem Effect.problems_eq_nil_iff {effect : Effect} :
    effect.problems = [] ↔
      effect.actions ≠ [] ∧ effect.restrictions.maxUses ≠ some 0 ∧
        (∀ condition ∈ effect.conditions, condition.problems = []) ∧
        ∀ action ∈ effect.actions, action.problems = [] := by
  simp only [problems, List.append_eq_nil_iff, List.flatMap_eq_nil_iff,
    Action.listProblems_eq_nil_iff, ite_eq_right_iff, imp_false,
    List.isEmpty_iff, List.cons_ne_self, and_assoc, ne_eq]

/-! ### Nothing is passed over -/

namespace Catalog

/-- The effect belongs to an item of the catalog. -/
def Declares (catalog : Catalog) (effect : Effect) : Prop :=
  ∃ item ∈ catalog.items, effect ∈ item.effects

/-- The ids of all effects of some items. -/
def effectIds (items : List Item) : List String := items.flatMap fun item => item.effects.map (·.id)

variable {declared : Declared}

theorem Declared.owner?_addEffect_eq_none_iff {name item other : String} :
    (declared.addEffect name item).owner? other = none ↔
      declared.owner? other = none ∧ other ≠ name := by
  unfold addEffect
  split
  · rename_i howned
    constructor
    · intro hnone
      refine ⟨hnone, fun heq => ?_⟩
      rw [← heq, hnone] at howned
      cases howned
    · exact And.left
  · by_cases heq : name = other
    · simp [owner?, heq]
    · simp [owner?, heq, Ne.symm heq]

/-- Behind effects the ids that have no owner are those that had none and are not among them. -/
theorem owner?_effectIssues_eq_none_iff {item id : String} {effects : List Effect} :
    (effectIssues item declared effects).2.owner? id = none ↔
      declared.owner? id = none ∧ id ∉ effects.map (·.id) := by
  induction effects generalizing declared with
  | nil => simp [effectIssues]
  | cons effect rest ih =>
      simp only [effectIssues, ih, Declared.owner?_addEffect_eq_none_iff, List.map_cons,
        List.mem_cons, not_or, and_assoc]

theorem items_effectIssues {item : String} {effects : List Effect} :
    (effectIssues item declared effects).2.items = declared.items := by
  induction effects generalizing declared with
  | nil => rfl
  | cons effect rest ih =>
      simp only [effectIssues, ih, Declared.addEffect]
      split <;> rfl

/-- Effects have no issues exactly if their ids are distinct, had no owner before, and no effect has
problems. -/
theorem effectIssues_eq_nil_iff {item : String} {effects : List Effect} :
    (effectIssues item declared effects).1 = [] ↔
      (effects.map (·.id)).Nodup ∧ (∀ id ∈ effects.map (·.id), declared.owner? id = none) ∧
        ∀ effect ∈ effects, effect.problems = [] := by
  induction effects generalizing declared with
  | nil => simp [effectIssues]
  | cons effect rest ih =>
      simp only [effectIssues, List.append_eq_nil_iff, List.map_eq_nil_iff,
        Option.toList_eq_nil_iff, idProblem?, Option.map_eq_none_iff, ih,
        Declared.owner?_addEffect_eq_none_iff, List.map_cons, List.nodup_cons,
        List.forall_mem_cons]
      constructor
      · rintro ⟨⟨hfree, hproblems⟩, hnodup, howners, hrest⟩
        exact ⟨⟨fun hmem => (howners _ hmem).2 rfl, hnodup⟩,
          ⟨hfree, fun id hmem => (howners id hmem).1⟩, hproblems, hrest⟩
      · rintro ⟨⟨hnew, hnodup⟩, ⟨hfree, howners⟩, hproblems, hrest⟩
        refine ⟨⟨hfree, hproblems⟩, hnodup, fun id hmem => ⟨howners id hmem, fun heq => ?_⟩, hrest⟩
        exact hnew (heq ▸ hmem)

/-- Items have no issues exactly if no id is declared twice, be it here or before, and no effect has
problems. -/
theorem itemIssues_eq_nil_iff {items : List Item} :
    itemIssues declared items = [] ↔
      ((items.map (·.id)).Nodup ∧ ∀ id ∈ items.map (·.id), id ∉ declared.items) ∧
        ((effectIds items).Nodup ∧ ∀ id ∈ effectIds items, declared.owner? id = none) ∧
        ∀ item ∈ items, ∀ effect ∈ item.effects, effect.problems = [] := by
  induction items generalizing declared with
  | nil => simp [itemIssues, effectIds]
  | cons item rest ih =>
      have hids : effectIds (item :: rest) = item.effects.map (·.id) ++ effectIds rest :=
        List.flatMap_cons
      have hitems : ∀ id, id ∈ (declared.addItem item.id).items ↔
          id = item.id ∨ id ∈ declared.items := fun _ => List.mem_cons
      have howner : ∀ id, (declared.addItem item.id).owner? id = declared.owner? id :=
        fun _ => rfl
      simp only [itemIssues, List.append_eq_nil_iff, effectIssues_eq_nil_iff, ih, hitems, howner,
        items_effectIssues, owner?_effectIssues_eq_none_iff, ite_eq_right_iff,
        List.cons_ne_self, imp_false, hids, List.nodup_append', List.forall_mem_append,
        List.map_cons, List.nodup_cons, List.forall_mem_cons, not_or]
      -- What the first item declares is taken behind it, so the rest must not declare it again.
      constructor
      · rintro ⟨⟨hitem, hfirst, hfirstFree, hfirstSound⟩, ⟨hnodup, hnew⟩, ⟨hrest, hrestFree⟩,
          hrestSound⟩
        refine ⟨⟨⟨fun hmem => (hnew _ hmem).1 rfl, hnodup⟩, hitem, fun id hmem => (hnew id hmem).2⟩,
          ⟨⟨hfirst, hrest, fun id hmem hagain => (hrestFree id hagain).2 hmem⟩, hfirstFree,
            fun id hmem => (hrestFree id hmem).1⟩, hfirstSound, hrestSound⟩
      · rintro ⟨⟨⟨hnew, hnodup⟩, hitem, hold⟩, ⟨⟨hfirst, hrest, hdisjoint⟩, hfirstFree, hrestFree⟩,
          hfirstSound, hrestSound⟩
        refine ⟨⟨hitem, hfirst, hfirstFree, hfirstSound⟩,
          ⟨hnodup, fun id hmem => ⟨fun heq => hnew (heq ▸ hmem), hold id hmem⟩⟩,
          ⟨hrest, fun id hmem => ⟨hrestFree id hmem, fun hagain => hdisjoint hagain hmem⟩⟩,
          hrestSound⟩

/-- A catalog is valid exactly if no id is declared twice and no effect has problems. -/
theorem issues_eq_nil_iff {catalog : Catalog} :
    catalog.issues = [] ↔
      (catalog.items.map (·.id)).Nodup ∧ (effectIds catalog.items).Nodup ∧
        ∀ effect, catalog.Declares effect → effect.problems = [] := by
  have hitems : ∀ id, id ∉ ({} : Declared).items := fun _ => List.not_mem_nil
  have howner : ∀ id, ({} : Declared).owner? id = none := fun _ => rfl
  simp only [issues, itemIssues_eq_nil_iff, hitems, howner, Declares, not_false_eq_true,
    implies_true, and_true, forall_exists_index, and_imp]
  constructor
  · rintro ⟨hitemIds, hids, hsound⟩
    exact ⟨hitemIds, hids, fun effect item hitem => hsound item hitem effect⟩
  · rintro ⟨hitemIds, hids, hsound⟩
    exact ⟨hitemIds, hids, fun item hitem effect => hsound effect item hitem⟩

/-! ### Effects of valid catalogs -/

variable {catalog : Catalog} {effect : Effect}

/-- The effects of a valid catalog have no problems. -/
theorem Declares.problems_eq_nil (hdeclared : catalog.Declares effect)
    (hvalid : catalog.issues = []) : effect.problems = [] :=
  (issues_eq_nil_iff.mp hvalid).2.2 effect hdeclared

/-- In a valid catalog no id is declared twice, be it by one item or by two. -/
theorem nodup_effectIds (hvalid : catalog.issues = []) : (effectIds catalog.items).Nodup :=
  (issues_eq_nil_iff.mp hvalid).2.1

theorem nodup_ids_of_mem {item : Item} (hvalid : catalog.issues = [])
    (hitem : item ∈ catalog.items) : (item.effects.map (·.id)).Nodup :=
  (List.nodup_flatMap.mp (nodup_effectIds hvalid)).1 item hitem

/-- In a valid catalog the items at two places share no effect id. -/
theorem disjoint_ids {i j : Nat} {item other : Item} (hvalid : catalog.issues = [])
    (hitem : catalog.items[i]? = some item) (hother : catalog.items[j]? = some other)
    (hne : i ≠ j) : (item.effects.map (·.id)).Disjoint (other.effects.map (·.id)) := by
  have hpairwise := List.pairwise_iff_getElem.mp (List.nodup_flatMap.mp (nodup_effectIds hvalid)).2
  obtain ⟨hi, rfl⟩ := List.getElem?_eq_some_iff.mp hitem
  obtain ⟨hj, rfl⟩ := List.getElem?_eq_some_iff.mp hother
  rcases Nat.lt_or_gt_of_ne hne with hlt | hgt
  · exact hpairwise i j hi hj hlt
  · exact fun id hmem hagain => hpairwise j i hj hi hgt hagain hmem

/-- In a valid catalog an id names one effect. -/
theorem Declares.eq_of_id_eq {other : Effect} (hvalid : catalog.issues = [])
    (heffect : catalog.Declares effect) (hother : catalog.Declares other)
    (hid : effect.id = other.id) : effect = other := by
  have hnodup := nodup_effectIds hvalid
  rw [effectIds, ← List.map_flatMap] at hnodup
  exact List.inj_on_of_nodup_map hnodup (List.mem_flatMap.mpr heffect)
    (List.mem_flatMap.mpr hother) hid

end Catalog

end BattleItems
