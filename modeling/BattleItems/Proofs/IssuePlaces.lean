import BattleItems.Proofs.WellFormedCatalogs

/-!
# BattleItems.Proofs.IssuePlaces

Which issues a catalog has, in which order, and what each of them depends on.

The checks walk over a catalog once and carry along what was declared so far.
`Catalog.placeIssues` says the same without a walk: at each place it looks at the catalog as far as
it stands before that place, and at the declarations of the place itself (`Effect.ownProblems`). The
two are tied by what the walk knows about the declarations behind it: the ids of the items, and for
each effect id the item that the first declaration of it belongs to. As a place sees nothing but ids
of what stands before it, catalogs that share no id can be put one behind the other.
-/

namespace BattleItems

/-! ### Reading a list place by place -/

/-- What is found at each element of a list, in order, given the elements before it. -/
def atEach {α β : Type} (found : List α → α → List β) (list : List α) : List β :=
  list.zipIdx.flatMap fun (element, index) => found (list.take index) element

section AtEach

variable {α β : Type} {found other : List α → α → List β}

theorem atEach_cons (first : α) (rest : List α) :
    atEach found (first :: rest) =
      found [] first ++ atEach (fun before => found (first :: before)) rest := by
  unfold atEach
  rw [List.zipIdx_cons, List.flatMap_cons, List.zipIdx_succ, List.flatMap_map]
  rfl

theorem atEach_append (front back : List α) :
    atEach found (front ++ back) =
      atEach found front ++ atEach (fun before => found (front ++ before)) back := by
  induction front generalizing found with
  | nil => rfl
  | cons first rest ih =>
      rw [List.cons_append, atEach_cons, atEach_cons, ih, List.append_assoc]
      rfl

theorem atEach_congr {list : List α}
    (h : ∀ element ∈ list, ∀ before, found before element = other before element) :
    atEach found list = atEach other list := by
  unfold atEach
  refine List.flatMap_congr fun (element, index) hmem => ?_
  exact h element (List.fst_mem_of_mem_zipIdx hmem) _

end AtEach

/-! ### The problems of a declaration for itself -/

/-- The number that should be a share, if it is there and is none. -/
def notShare (probability : Option Binary64) : List Binary64 :=
  probability.toList.filter fun value => ¬value.IsShare

/-- What is wrong with a comparison: the ends of its range are the wrong way round. -/
def Comparison.ownProblems : Comparison → List Problem
  | range (some lower) (some upper) =>
    if upper.less lower then [.invertedRange lower upper] else []
  | _ => []

/-- What is wrong with a kind of condition: nobody knows it, it is a chance that is no share, or it
compares in a wrong way. -/
def ConditionKind.ownProblems (kind : ConditionKind) : List Problem :=
  match kind with
  | unrecognized name => [.unknownConditionKind name]
  | randomChance value => if value.IsShare then [] else [.randomChance value]
  | _ => kind.comparison?.elim [] Comparison.ownProblems

/-- The gate of chance of a condition, then its kind. -/
def Condition.ownProblems (condition : Condition) : List Problem :=
  (notShare condition.probability).map .conditionProbability ++ condition.kind.ownProblems

/-- What is wrong with a kind of action: nobody knows it, it is an evolution that leads nowhere, or
its number is no amount. -/
def ActionKind.ownProblems : ActionKind → List Problem
  | unrecognized name => [.unknownActionKind name]
  | evolve evolution => if evolution.paths = [] then [.noEvolution] else []
  | healPercentage percent => if percent.IsAmount then [] else [.healPercentage percent]
  | modifyCatchRate multiplier =>
    if multiplier.IsAmount then [] else [.catchRateMultiplier multiplier]
  | _ => []

/-- The gate of chance of an action, then its own conditions, then its kind. -/
def Action.ownProblems (action : Action) : List Problem :=
  (notShare action.chance).map .chance ++ action.conditions.flatMap Condition.ownProblems ++
    action.kind.ownProblems

/-- The problems of an effect for itself: no actions, a limit of no uses, its conditions, and its
actions, each problem of which goes with the position of the action. -/
def Effect.ownProblems (effect : Effect) : List Problem :=
  (if effect.actions = [] then [.noActions] else []) ++
    (if effect.restrictions.maxUses = some 0 then [.zeroMaxUses] else []) ++
    effect.conditions.flatMap Condition.ownProblems ++
    effect.actions.zipIdx.flatMap fun (action, index) => action.ownProblems.map (.inAction index)

/-! ### The issues, place by place -/

/-- The issues of an effect of an item: at most one about its id, which is taken if it is among the
earlier declarations and then belongs to the first of them, and its own problems. A declaration is
the id of an effect and that of its item. -/
def Effect.placeIssues (earlier : List (String × String)) (item : String) (effect : Effect) :
    List Issue :=
  let clash : List Problem :=
    match earlier.lookup effect.id with
    | none => []
    | some owner => [if owner = item then .duplicateEffect else .ownedBy owner]
  (clash ++ effect.ownProblems).map (⟨item, some effect.id, ·⟩)

namespace Catalog

/-- The declarations of an item's effects, in order. -/
def declarationsOf (item : String) (effects : List Effect) : List (String × String) :=
  effects.map fun effect => (effect.id, item)

/-- The declarations of all effects of some items, in order. -/
def declarations (items : List Item) : List (String × String) :=
  items.flatMap fun item => declarationsOf item.id item.effects

end Catalog

/-- The issues of an item that stands behind others: that its id is taken, and those of its
effects. -/
def Item.placeIssues (before : List Item) (item : Item) : List Issue :=
  (if item.id ∈ before.map (·.id) then [⟨item.id, none, .duplicateItem⟩] else []) ++
    atEach (fun above effect =>
      effect.placeIssues (Catalog.declarations before ++ Catalog.declarationsOf item.id above)
        item.id) item.effects

/-- The issues of a catalog, place by place. -/
def Catalog.placeIssues (catalog : Catalog) : List Issue := atEach Item.placeIssues catalog.items

/-! ### Problems of single effects -/

theorem toList_badProbability? (probability : Option Binary64) :
    (badProbability? probability).toList = notShare probability := by
  cases probability with
  | none => rfl
  | some value =>
      by_cases hshare : value.IsShare
      · simp [badProbability?, notShare, hshare, Binary64.isProbability_iff.mpr hshare]
      · simp [badProbability?, notShare, hshare, mt Binary64.isProbability_iff.mp hshare]

theorem Comparison.problems_eq_ownProblems (comparison : Comparison) :
    comparison.problems = comparison.ownProblems := by
  unfold ownProblems
  split
  · rename_i lower upper
    by_cases hless : upper.less lower <;> simp [problems, invertedBounds?, hless]
  · rename_i hother
    unfold problems invertedBounds?
    split
    · exact absurd rfl (hother _ _)
    · rfl

theorem ConditionKind.problems_eq_ownProblems (kind : ConditionKind) :
    kind.problems = kind.ownProblems := by
  cases kind with
  | randomChance value => simp only [problems, ownProblems, Binary64.isProbability_iff]
  | level comparison | friendship comparison | stat _ comparison | hpPercentage comparison
  | hpAbsolute comparison => exact comparison.problems_eq_ownProblems
  | _ => rfl

theorem Condition.problems_eq_ownProblems (condition : Condition) :
    condition.problems = condition.ownProblems := by
  rw [problems, ownProblems, Option.toList_map, toList_badProbability?,
    ConditionKind.problems_eq_ownProblems]

theorem ActionKind.problems_eq_ownProblems (kind : ActionKind) :
    kind.problems = kind.ownProblems := by
  cases kind with
  | evolve evolution => simp only [problems, ownProblems, List.isEmpty_iff]
  | healPercentage | modifyCatchRate =>
      simp only [problems, ownProblems, Binary64.isNonNegative_iff]
  | _ => rfl

theorem Action.problems_eq_ownProblems (action : Action) :
    action.problems = action.ownProblems := by
  rw [problems, ownProblems, Option.toList_map, toList_badProbability?,
    ActionKind.problems_eq_ownProblems, funext Condition.problems_eq_ownProblems]

/-- The positions count from where the list starts. -/
theorem Action.listProblems_eq_flatMap (start : Nat) (actions : List Action) :
    listProblems start actions =
      (actions.zipIdx start).flatMap fun (action, index) =>
        action.problems.map (.inAction index) := by
  induction actions generalizing start with
  | nil => rfl
  | cons action rest ih => rw [listProblems, ih, List.zipIdx_cons, List.flatMap_cons]

theorem Effect.problems_eq_ownProblems (effect : Effect) :
    effect.problems = effect.ownProblems := by
  simp only [problems, ownProblems, Action.listProblems_eq_flatMap,
    Action.problems_eq_ownProblems, funext Condition.problems_eq_ownProblems, List.isEmpty_iff]

/-! ### What the walk knows -/

namespace Catalog

variable {declared : Declared} {earlier : List (String × String)}

/-- A declaration counts only for an id that has no owner yet. -/
theorem Declared.owner?_addEffect (effect item id : String) :
    (declared.addEffect effect item).owner? id =
      (declared.owner? id).or ([(effect, item)].lookup id) := by
  unfold addEffect
  by_cases howned : (declared.owner? effect).isSome
  · rw [if_pos howned]
    by_cases hid : id = effect
    · subst hid
      obtain ⟨owner, howner⟩ := Option.isSome_iff_exists.mp howned
      rw [howner, Option.some_or]
    · simp [List.lookup_cons, beq_false_of_ne hid]
  · rw [if_neg howned]
    by_cases hid : id = effect
    · subst hid
      rw [Option.not_isSome_iff_eq_none.mp howned]
      simp [owner?]
    · simp [owner?, List.lookup_cons, beq_false_of_ne hid, Ne.symm hid]

/-- A declaration comes behind those before it. -/
theorem Declared.owner?_addEffect_eq_lookup (howner : ∀ id, declared.owner? id = earlier.lookup id)
    (effect item id : String) :
    (declared.addEffect effect item).owner? id = (earlier ++ [(effect, item)]).lookup id := by
  rw [owner?_addEffect, howner, List.lookup_append]

/-- Behind effects the owners are those of the declarations before them and of their own. -/
theorem owner?_effectIssues {item : String} {effects : List Effect}
    (howner : ∀ id, declared.owner? id = earlier.lookup id) (id : String) :
    (effectIssues item declared effects).2.owner? id =
      (earlier ++ declarationsOf item effects).lookup id := by
  induction effects generalizing declared earlier with
  | nil =>
      rw [declarationsOf, List.map_nil, List.append_nil]
      exact howner id
  | cons effect rest ih =>
      have hfirst := Declared.owner?_addEffect_eq_lookup howner effect.id item
      rw [effectIssues, ih hfirst, List.append_assoc]
      rfl

theorem effectIssues_eq_atEach {item : String} {effects : List Effect}
    (howner : ∀ id, declared.owner? id = earlier.lookup id) :
    (effectIssues item declared effects).1 =
      atEach (fun above effect =>
        effect.placeIssues (earlier ++ declarationsOf item above) item) effects := by
  induction effects generalizing declared earlier with
  | nil => rfl
  | cons effect rest ih =>
      have hfirst := Declared.owner?_addEffect_eq_lookup howner effect.id item
      have hclash : (idProblem? declared item effect.id).toList =
          match earlier.lookup effect.id with
          | none => []
          | some owner => [if owner = item then .duplicateEffect else .ownedBy owner] := by
        rw [idProblem?, howner]
        cases earlier.lookup effect.id <;> rfl
      simp only [effectIssues, ih hfirst, atEach_cons, hclash, effect.problems_eq_ownProblems,
        Effect.placeIssues, declarationsOf, List.map_nil, List.append_nil, List.map_cons,
        List.append_assoc, List.singleton_append]

theorem declarations_append (front back : List Item) :
    declarations (front ++ back) = declarations front ++ declarations back :=
  List.flatMap_append

/-- A walk that stands behind some items finds what there is to find from there on. -/
theorem itemIssues_eq_atEach {items : List Item} (before : List Item)
    (hitems : ∀ id, id ∈ declared.items ↔ id ∈ before.map (·.id))
    (howner : ∀ id, declared.owner? id = (declarations before).lookup id) :
    itemIssues declared items =
      atEach (fun above => Item.placeIssues (before ++ above)) items := by
  induction items generalizing declared before with
  | nil => rfl
  | cons item rest ih =>
      have hadded : ∀ id, (declared.addItem item.id).owner? id = (declarations before).lookup id :=
        howner
      have hitemsNext : ∀ id,
          id ∈ (effectIssues item.id (declared.addItem item.id) item.effects).2.items ↔
            id ∈ (before ++ [item]).map (·.id) := fun id => by
        rw [items_effectIssues, List.map_append, List.mem_append, ← hitems id]
        simp [Declared.addItem, or_comm]
      have hownerNext : ∀ id,
          (effectIssues item.id (declared.addItem item.id) item.effects).2.owner? id =
            (declarations (before ++ [item])).lookup id := fun id => by
        rw [owner?_effectIssues hadded, declarations_append]
        simp [declarations]
      simp only [itemIssues, ih (before ++ [item]) hitemsNext hownerNext, atEach_cons,
        effectIssues_eq_atEach hadded, Item.placeIssues, hitems, List.append_nil,
        List.append_assoc, List.singleton_append]

/-! ### Catalogs one behind the other -/

theorem lookup_declarations_eq_none {items : List Item} {id : String} (h : id ∉ effectIds items) :
    (declarations items).lookup id = none := by
  rw [List.lookup_eq_none_iff]
  intro declaration hmem
  obtain ⟨item, hitem, hmem⟩ := List.mem_flatMap.mp hmem
  obtain ⟨effect, heffect, rfl⟩ := List.mem_map.mp hmem
  rw [bne_iff_ne]
  rintro rfl
  exact h (List.mem_flatMap.mpr ⟨item, hitem, List.mem_map.mpr ⟨effect, heffect, rfl⟩⟩)

/-- Items that share no id with an item are not seen from its place. -/
theorem placeIssues_append_of_fresh {front before : List Item} {item : Item}
    (hitem : item.id ∉ front.map (·.id))
    (hids : ∀ effect ∈ item.effects, effect.id ∉ effectIds front) :
    item.placeIssues (front ++ before) = item.placeIssues before := by
  have heffects : atEach (fun above effect => effect.placeIssues
        (declarations (front ++ before) ++ declarationsOf item.id above) item.id) item.effects =
      atEach (fun above effect => effect.placeIssues
        (declarations before ++ declarationsOf item.id above) item.id) item.effects := by
    refine atEach_congr fun effect heffect above => ?_
    unfold Effect.placeIssues
    rw [declarations_append, List.append_assoc, List.lookup_append,
      lookup_declarations_eq_none (hids effect heffect), Option.none_or]
  simp only [Item.placeIssues, heffects, List.map_append, List.mem_append, hitem, false_or]

/-- **The issues of a catalog are those of its places, in order.** At an item it is an issue that an
item before it has the same id. At an effect it is one, at most, that the id was declared before,
be it in this item or in another: the first declaration decides which. Then follow the problems of
the effect itself. Hence catalogs that share no item id and no effect id do not see each other. -/
theorem issues_eq_placeIssues (catalog : Catalog) :
    catalog.issues = catalog.placeIssues ∧
      ∀ other : Catalog, (catalog.items.map (·.id)).Disjoint (other.items.map (·.id)) →
        (effectIds catalog.items).Disjoint (effectIds other.items) →
          (Catalog.mk (catalog.items ++ other.items)).issues = catalog.issues ++ other.issues := by
  have hplaces : ∀ catalog : Catalog, catalog.issues = catalog.placeIssues := fun catalog => by
    rw [issues, itemIssues_eq_atEach [] (fun _ => Iff.rfl) (fun _ => rfl)]
    rfl
  refine ⟨hplaces catalog, fun other hitems hids => ?_⟩
  rw [hplaces, hplaces, hplaces, placeIssues, atEach_append]
  refine congrArg _ (atEach_congr fun item hitem before => ?_)
  refine placeIssues_append_of_fresh (fun hmem => hitems hmem (List.mem_map_of_mem hitem)) ?_
  intro effect heffect hmem
  exact hids hmem (List.mem_flatMap.mpr ⟨item, hitem, List.mem_map_of_mem heffect⟩)

/-- A pack that declares `heal` four times, the last time in a second berry behind a charm, where it
still counts as the berry's, and a pack of a stone behind it, which has something wrong in every
place of an effect. -/
theorem issues_eq_placeIssues_packs :
    let heal : Effect :=
      { id := "heal", trigger := .onUse, actions := [{ kind := .healFixed 20 }] }
    let glow : Effect := { id := "glow", trigger := .onUse, actions := [] }
    let warp : Effect := {
      id := "warp", trigger := .onUse, restrictions := { maxUses := some 0 },
      conditions := [{ kind := .noStatus, probability := some (3 / 2) }],
      actions := [{ kind := .evolve { into := "vaporeon" }, chance := some 2 },
        { kind := .unrecognized "warp",
          conditions := [{ kind := .level (.between 30 10) }, { kind := .randomChance .nan }] }] }
    let berries : Catalog :=
      ⟨[{ id := "berry", effects := [heal, heal] }, { id := "charm", effects := [heal] },
        { id := "berry", effects := [heal] }]⟩
    let stones : Catalog := ⟨[{ id := "stone", effects := [glow, warp] }]⟩
    (berries.items.map (·.id)).Disjoint (stones.items.map (·.id)) ∧
      (effectIds berries.items).Disjoint (effectIds stones.items) ∧
      (Catalog.mk (berries.items ++ stones.items)).issues = berries.issues ++ stones.issues ∧
      berries.issues.map (·.message) =
        ["berry/heal: duplicate effect id",
          "charm/heal: effect id already declared by item \x60berry\x60",
          "berry: duplicate item id", "berry/heal: duplicate effect id"] ∧
      stones.issues.map (·.message) =
        ["stone/glow: effect has no actions",
          "stone/warp: max_uses_per_battle of 0 can never fire",
          "stone/warp: condition probability 1.5 outside 0.0..=1.0",
          "stone/warp: action #0: chance 2 outside 0.0..=1.0",
          "stone/warp: action #0: evolve action has no mapping",
          "stone/warp: action #1: inverted range: min 30 > max 10",
          "stone/warp: action #1: random_chance NaN outside 0.0..=1.0",
          "stone/warp: action #1: unknown action kind \x60warp\x60"] := by
  intro heal glow warp berries stones
  have hitems : (berries.items.map (·.id)).Disjoint (stones.items.map (·.id)) := by
    simp [berries, stones]
  have hids : (effectIds berries.items).Disjoint (effectIds stones.items) := by
    simp [berries, stones, effectIds, heal, glow, warp]
  obtain ⟨hberries, happend⟩ := issues_eq_placeIssues berries
  obtain ⟨hstones, -⟩ := issues_eq_placeIssues stones
  refine ⟨hitems, hids, happend stones hitems hids, ?_, ?_⟩
  · rw [hberries]
    decide +kernel
  · rw [hstones]
    decide +kernel

end Catalog

end BattleItems
