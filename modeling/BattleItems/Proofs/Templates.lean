import Mathlib.Data.List.Infix
import BattleItems.Action.Template

/-!
# BattleItems.Proofs.Templates

Filling in a template is one simultaneous substitution.

A template is cut into pieces: characters that are copied and placeholders of variables. What makes
the cut a *reading* of the template is said without the scan: the pieces spell the template, and
its placeholders are all the places where one of a known name is written (`IsReading`). If no name
holds a brace, two placeholders never overlap, so there is exactly one reading, and the scan finds
it (`render_eq_filled`). The values come in last: the reading is one of the template and the names,
and no value is looked at again.
-/

namespace BattleItems

namespace Template

/-! ### Readings -/

/-- A piece of a template: a character that is copied, or the placeholder of a variable. -/
inductive Piece where
  | copied (c : Char)
  | placeholder (name : String)
deriving DecidableEq

namespace Piece

/-- The piece as it is written in the template. -/
def source : Piece → List Char
  | copied c => [c]
  | placeholder name => '\x7b' :: name.toList ++ ['\x7d']

/-- The piece as it is filled in: a placeholder gives way to the value of the first variable of its
name. -/
def filled (bindings : List Binding) : Piece → List Char
  | copied c => [c]
  | placeholder name =>
    match bindings.lookup name with
    | some value => value.toList
    | none => (placeholder name).source

end Piece

/-- The pieces spell the template, and its placeholders are those of the given names, each wherever
it is written in the template. -/
structure IsReading (names : List String) (template : List Char) (pieces : List Piece) : Prop where
  source_eq : pieces.flatMap Piece.source = template
  known : ∀ name, .placeholder name ∈ pieces → name ∈ names
  complete : ∀ name ∈ names, ∀ before after,
    template = before ++ (Piece.placeholder name).source ++ after →
      ∃ front back, pieces = front ++ .placeholder name :: back ∧
        front.flatMap Piece.source = before

/-- A name that can stand in a placeholder: it holds no braces. -/
def IsPlain (name : String) : Prop := '\x7b' ∉ name.toList ∧ '\x7d' ∉ name.toList

instance (name : String) : Decidable (IsPlain name) :=
  inferInstanceAs (Decidable ('\x7b' ∉ name.toList ∧ '\x7d' ∉ name.toList))

variable {names : List String} {template : List Char} {pieces : List Piece} {name : String}

theorem Piece.source_placeholder_append (name : String) (after : List Char) :
    (placeholder name).source ++ after = '\x7b' :: (name.toList ++ '\x7d' :: after) := by
  simp [source]

/-! ### A reading grows by one piece -/

theorem IsReading.nil : IsReading names [] [] where
  source_eq := rfl
  known _ hmem := absurd hmem List.not_mem_nil
  complete name _ before after heq := by
    rw [List.append_assoc, Piece.source_placeholder_append] at heq
    simp at heq

/-- A character that opens no placeholder of a known name is copied. -/
theorem IsReading.copied {c : Char} (h : IsReading names template pieces)
    (hopens : ∀ name ∈ names, ∀ after, c :: template ≠ (Piece.placeholder name).source ++ after) :
    IsReading names (c :: template) (.copied c :: pieces) where
  source_eq := by rw [List.flatMap_cons, h.source_eq]; rfl
  known name hmem := by
    rcases List.mem_cons.mp hmem with heq | hmem
    · cases heq
    · exact h.known name hmem
  complete name hname before after heq := by
    cases before with
    | nil => exact absurd heq (hopens name hname after)
    | cons first before =>
        obtain ⟨rfl, hrest⟩ := List.cons.inj heq
        obtain ⟨front, back, rfl, hfront⟩ := h.complete name hname before after hrest
        exact ⟨.copied c :: front, back, rfl, by rw [List.flatMap_cons, hfront]; rfl⟩

/-- Where a placeholder is written, the next one can only begin behind it. -/
theorem Piece.append_of_source_append {other : String} {before after rest : List Char}
    (hplain : IsPlain name) (hbefore : before ≠ [])
    (h : (placeholder name).source ++ rest = before ++ (placeholder other).source ++ after) :
    ∃ between, before = (placeholder name).source ++ between ∧
      rest = between ++ (placeholder other).source ++ after := by
  rw [List.append_assoc] at h
  simp only [List.append_assoc]
  rcases List.append_eq_append_iff.mp h with ⟨between, hbetween, hrest⟩ | ⟨inner, hinner, hrest⟩
  · exact ⟨between, hbetween, hrest⟩
  · -- Otherwise the other one would open inside of the name.
    cases inner with
    | nil =>
        rw [List.append_nil] at hinner
        exact ⟨[], by rw [List.append_nil, hinner], hrest.symm⟩
    | cons c inner =>
        rw [source_placeholder_append, List.cons_append] at hrest
        obtain ⟨rfl, -⟩ := List.cons.inj hrest
        cases before with
        | nil => exact absurd rfl hbefore
        | cons first before =>
            have hname : name.toList ++ ['\x7d'] = before ++ '\x7b' :: inner :=
              (List.cons.inj hinner).2
            have hopen : '\x7b' ∈ name.toList ++ ['\x7d'] := by
              rw [hname]
              exact List.mem_append_right _ List.mem_cons_self
            rcases List.mem_append.mp hopen with hopen | hopen
            · exact absurd hopen hplain.1
            · exact absurd (List.mem_singleton.mp hopen) (by decide)

/-- A name is what stands before the first closing brace. -/
theorem takeWhile_closing {chars : List Char} (h : '\x7d' ∉ chars) (after : List Char) :
    (chars ++ '\x7d' :: after).takeWhile (· ≠ '\x7d') = chars := by
  rw [List.takeWhile_append_of_pos, List.takeWhile_cons_of_neg (by simp), List.append_nil]
  intro c hc
  rw [decide_eq_true_eq]
  rintro rfl
  exact h hc

theorem Piece.name_eq_of_source_append {other : String} {after rest : List Char}
    (hplain : IsPlain name) (hother : IsPlain other)
    (h : (placeholder name).source ++ rest = (placeholder other).source ++ after) :
    name = other ∧ rest = after := by
  rw [source_placeholder_append, source_placeholder_append] at h
  have hinner := (List.cons.inj h).2
  have hname := congrArg (List.takeWhile (· ≠ '\x7d')) hinner
  rw [takeWhile_closing hplain.2, takeWhile_closing hother.2] at hname
  rw [hname] at hinner
  exact ⟨String.toList_injective hname, (List.cons.inj (List.append_cancel_left hinner)).2⟩

theorem IsReading.placeholder (h : IsReading names template pieces)
    (hplain : ∀ name ∈ names, IsPlain name) (hname : name ∈ names) :
    IsReading names ((Piece.placeholder name).source ++ template)
      (.placeholder name :: pieces) where
  source_eq := by rw [List.flatMap_cons, h.source_eq]
  known other hmem := by
    rcases List.mem_cons.mp hmem with heq | hmem
    · cases heq
      exact hname
    · exact h.known other hmem
  complete other hother before after heq := by
    by_cases hbefore : before = []
    · subst hbefore
      obtain ⟨rfl, -⟩ := Piece.name_eq_of_source_append (hplain _ hname) (hplain _ hother) heq
      exact ⟨[], pieces, rfl, rfl⟩
    · obtain ⟨between, rfl, hrest⟩ :=
        Piece.append_of_source_append (hplain _ hname) hbefore heq
      obtain ⟨front, back, rfl, hfront⟩ := h.complete other hother between after hrest
      exact ⟨.placeholder name :: front, back, rfl, by rw [List.flatMap_cons, hfront]⟩

/-! ### There is one reading -/

theorem Piece.source_ne_nil (piece : Piece) : piece.source ≠ [] := by
  cases piece <;> simp [source]

/-- What stands behind the first piece is read on its own. -/
theorem IsReading.tail {piece : Piece} {rest : List Char}
    (h : IsReading names (piece.source ++ rest) (piece :: pieces)) :
    IsReading names rest pieces where
  source_eq := by
    have hsource := h.source_eq
    rw [List.flatMap_cons] at hsource
    exact List.append_cancel_left hsource
  known name hmem := h.known name (List.mem_cons_of_mem _ hmem)
  complete name hname before after heq := by
    obtain ⟨front, back, hpieces, hfront⟩ := h.complete name hname (piece.source ++ before) after
      (by rw [heq, List.append_assoc, List.append_assoc, List.append_assoc])
    cases front with
    | nil => exact absurd (List.append_eq_nil_iff.mp hfront.symm).1 piece.source_ne_nil
    | cons first front =>
        obtain ⟨rfl, rfl⟩ := List.cons.inj hpieces
        rw [List.flatMap_cons] at hfront
        exact ⟨front, back, rfl, List.append_cancel_left hfront⟩

/-- A placeholder of a known name at the front is the first piece. -/
theorem IsReading.exists_cons {after : List Char} (hname : name ∈ names)
    (h : IsReading names ((Piece.placeholder name).source ++ after) pieces) :
    ∃ rest, pieces = .placeholder name :: rest := by
  obtain ⟨front, back, rfl, hfront⟩ := h.complete name hname [] after rfl
  cases front with
  | nil => exact ⟨back, rfl⟩
  | cons first front =>
      rw [List.flatMap_cons] at hfront
      exact absurd (List.append_eq_nil_iff.mp hfront).1 first.source_ne_nil

theorem IsReading.unique {others : List Piece} (h : IsReading names template pieces)
    (hother : IsReading names template others) : others = pieces := by
  induction pieces generalizing template others with
  | nil =>
      have hsource := hother.source_eq
      rw [← h.source_eq] at hsource
      cases others with
      | nil => rfl
      | cons piece rest =>
          rw [List.flatMap_cons] at hsource
          exact absurd (List.append_eq_nil_iff.mp hsource).1 piece.source_ne_nil
  | cons piece rest ih =>
      obtain rfl := h.source_eq
      rw [List.flatMap_cons] at h hother
      cases piece with
      | placeholder name =>
          obtain ⟨behind, rfl⟩ := hother.exists_cons (h.known name List.mem_cons_self)
          rw [ih h.tail hother.tail]
      | copied c =>
          cases others with
          | nil => cases hother.source_eq
          | cons first behind =>
              cases first with
              | placeholder name =>
                  have hsource := hother.source_eq
                  rw [List.flatMap_cons] at hsource
                  rw [← hsource] at h
                  obtain ⟨_, heq⟩ := h.exists_cons (hother.known name List.mem_cons_self)
                  cases heq
              | copied other =>
                  obtain ⟨rfl, -⟩ := List.cons.inj hother.source_eq
                  rw [ih h.tail hother.tail]

/-! ### The scan -/

variable {bindings : List Binding}

/-- Of the bindings of a name the first counts. -/
theorem map_find?_eq_lookup (bindings : List Binding) (name : String) :
    (bindings.find? fun entry => entry.1.toList = name.toList).map (·.2) =
      bindings.lookup name := by
  induction bindings with
  | nil => rfl
  | cons entry rest ih =>
      obtain ⟨first, value⟩ := entry
      by_cases hfirst : first = name
      · subst hfirst
        simp
      · have hchars : first.toList ≠ name.toList := fun h => hfirst (String.toList_injective h)
        rw [List.find?_cons_of_neg (by simpa using hchars), ih, List.lookup_cons,
          beq_false_of_ne (Ne.symm hfirst)]

theorem exists_lookup_of_mem (h : name ∈ bindings.map (·.1)) :
    ∃ value, bindings.lookup name = some value := by
  obtain ⟨entry, hentry, rfl⟩ := List.mem_map.mp h
  exact Option.isSome_iff_exists.mp
    (List.lookup_isSome_iff.mpr ⟨entry, hentry, beq_self_eq_true _⟩)

theorem placeholder?_append {value : String} (hplain : IsPlain name)
    (hvalue : bindings.lookup name = some value) (after : List Char) :
    placeholder? bindings (name.toList ++ '\x7d' :: after) =
      some (value.toList, name.toList.length + 1) := by
  have hfound := map_find?_eq_lookup bindings name
  rw [hvalue, Option.map_eq_some_iff] at hfound
  obtain ⟨entry, hentry, rfl⟩ := hfound
  have hshort : name.toList.length < (name.toList ++ '\x7d' :: after).length := by simp
  simp only [placeholder?, takeWhile_closing hplain.2, hshort, if_true, hentry, Option.map_some]

/-- What the scan takes for a placeholder is one, of a variable that there is. -/
theorem exists_of_placeholder? {rest value : List Char} {length : Nat}
    (h : placeholder? bindings rest = some (value, length)) :
    ∃ name ∈ bindings.map (·.1), ∃ after, rest = name.toList ++ '\x7d' :: after := by
  simp only [placeholder?] at h
  split at h
  · rename_i hshort
    obtain ⟨entry, hentry, -⟩ := Option.map_eq_some_iff.mp h
    have hname := List.find?_some hentry
    rw [decide_eq_true_eq] at hname
    refine ⟨entry.1, List.mem_map_of_mem (List.mem_of_find?_eq_some hentry), ?_⟩
    have hsplit := List.takeWhile_append_dropWhile (p := (· ≠ '\x7d')) (l := rest)
    rw [hname]
    cases hdrop : rest.dropWhile (· ≠ '\x7d') with
    | nil =>
        rw [hdrop, List.append_nil] at hsplit
        rw [hsplit] at hshort
        exact absurd hshort (Nat.lt_irrefl _)
    | cons c after =>
        have hclosing := List.head?_dropWhile_not (· ≠ '\x7d') rest
        rw [hdrop] at hclosing
        obtain rfl : c = '\x7d' := by simpa using hclosing
        exact ⟨after, by rw [← hdrop, hsplit]⟩
  · cases h

theorem expand_skip (bindings : List Binding) (front rest : List Char) :
    expand bindings front.length (front ++ rest) = expand bindings 0 rest := by
  induction front with
  | nil => rfl
  | cons c front ih =>
      rw [List.cons_append, List.length_cons, expand]
      exact ih

theorem expand_placeholder (hplain : IsPlain name) (hname : name ∈ bindings.map (·.1))
    (after : List Char) :
    expand bindings 0 ((Piece.placeholder name).source ++ after) =
      (Piece.placeholder name).filled bindings ++ expand bindings 0 after := by
  obtain ⟨value, hvalue⟩ := exists_lookup_of_mem hname
  have hskip := expand_skip bindings (name.toList ++ ['\x7d']) after
  rw [List.append_assoc, List.length_append, List.singleton_append, List.length_singleton] at hskip
  rw [Piece.source_placeholder_append, expand, if_pos rfl, placeholder?_append hplain hvalue after]
  simp only [Piece.filled, hvalue, hskip]

/-- A character that opens no placeholder is copied, and the scan goes on right behind it. -/
theorem expand_copied {c : Char} {rest : List Char}
    (hopens : ∀ name ∈ bindings.map (·.1), ∀ after,
      c :: rest ≠ (Piece.placeholder name).source ++ after) :
    expand bindings 0 (c :: rest) = c :: expand bindings 0 rest := by
  rw [expand]
  by_cases hc : c = '\x7b'
  · subst hc
    rw [if_pos rfl]
    cases hfound : placeholder? bindings rest with
    | none => rfl
    | some found =>
        obtain ⟨name, hname, after, rfl⟩ := exists_of_placeholder? hfound
        exact absurd (Piece.source_placeholder_append name after).symm (hopens name hname after)
  · rw [if_neg hc]

/-- The scan fills in a reading. -/
theorem exists_reading (hplain : ∀ name ∈ names, IsPlain name) (template : List Char) :
    ∃ pieces, IsReading names template pieces ∧
      ∀ bindings : List Binding, bindings.map (·.1) = names →
        expand bindings 0 template = pieces.flatMap (Piece.filled bindings) := by
  -- What is left of the template gets shorter, by one character or by a whole placeholder.
  induction hlength : template.length using Nat.strong_induction_on generalizing template with
  | _ length ih =>
      subst hlength
      cases template with
      | nil => exact ⟨[], .nil, fun _ _ => rfl⟩
      | cons c rest =>
          by_cases hopens : ∃ name ∈ names, ∃ after,
              c :: rest = (Piece.placeholder name).source ++ after
          · obtain ⟨name, hname, after, heq⟩ := hopens
            have hshorter : after.length < (c :: rest).length := by
              rw [heq, List.length_append]
              exact Nat.lt_add_of_pos_left (List.length_pos_of_ne_nil (Piece.source_ne_nil _))
            obtain ⟨pieces, hreading, hfilled⟩ := ih _ hshorter after rfl
            refine ⟨.placeholder name :: pieces, ?_, fun bindings hnames => ?_⟩
            · rw [heq]
              exact hreading.placeholder hplain hname
            · rw [heq, expand_placeholder (hplain name hname) (hnames ▸ hname),
                hfilled bindings hnames, List.flatMap_cons]
          · have hnone : ∀ name ∈ names, ∀ after,
                c :: rest ≠ (Piece.placeholder name).source ++ after :=
              fun name hname after heq => hopens ⟨name, hname, after, heq⟩
            obtain ⟨pieces, hreading, hfilled⟩ := ih _ (Nat.lt_succ_self _) rest rfl
            refine ⟨.copied c :: pieces, hreading.copied hnone, fun bindings hnames => ?_⟩
            rw [expand_copied (hnames ▸ hnone), hfilled bindings hnames]
            rfl

/-- **Filling in is one simultaneous substitution.** For names that hold no braces a template has
exactly one reading, and with whatever values the variables of these names have, rendering copies
the characters of this reading, in order, and puts in the value of the first variable of the name
for each of its placeholders. -/
theorem render_eq_filled (template : String) (names : List String)
    (hplain : ∀ name ∈ names, IsPlain name) :
    ∃ pieces, IsReading names template.toList pieces ∧
      (∀ others, IsReading names template.toList others → others = pieces) ∧
      ∀ bindings : List Binding, bindings.map (·.1) = names →
        render template bindings = String.ofList (pieces.flatMap (Piece.filled bindings)) := by
  obtain ⟨pieces, hreading, hfilled⟩ := exists_reading hplain template.toList
  refine ⟨pieces, hreading, fun others hother => hreading.unique hother, ?_⟩
  intro bindings hnames
  rw [render, hfilled bindings hnames]

/-- Nested braces, a name that is empty, one that has two variables, and values that look like
placeholders. -/
theorem render_eq_filled_nested :
    let names := ["species", "species", ""]
    let template := "\x7b\x7bspecies\x7d by \x7bnobody\x7d, \x7b\x7d"
    let bindings := [("species", "\x7b\x7d"), ("species", "eevee"), ("", "\x7bspecies\x7d")]
    (∀ name ∈ names, IsPlain name) ∧ bindings.map (·.1) = names ∧
      (∃ pieces, IsReading names template.toList pieces ∧
        render template bindings = String.ofList (pieces.flatMap (Piece.filled bindings))) ∧
      render template bindings =
        "\x7b\x7b\x7d by \x7bnobody\x7d, \x7bspecies\x7d" := by
  intro names template bindings
  have hplain : ∀ name ∈ names, IsPlain name := by decide +kernel
  obtain ⟨pieces, hreading, -, hfilled⟩ := render_eq_filled template names hplain
  exact ⟨hplain, rfl, ⟨pieces, hreading, hfilled bindings rfl⟩, by decide +kernel⟩

/-- A template in which no placeholder of a variable is written is left as it is. -/
theorem render_eq_self {template : String} {bindings : List Binding}
    (hplain : ∀ name ∈ bindings.map (·.1), IsPlain name)
    (hnone : ∀ name ∈ bindings.map (·.1), ¬(Piece.placeholder name).source <:+: template.toList) :
    render template bindings = template := by
  obtain ⟨pieces, hreading, hfilled⟩ := exists_reading hplain template.toList
  have hcopied : ∀ piece ∈ pieces, piece.filled bindings = piece.source := by
    intro piece hpiece
    cases piece with
    | copied c => rfl
    | placeholder name =>
        obtain ⟨front, back, rfl⟩ := List.append_of_mem hpiece
        refine absurd ?_ (hnone name (hreading.known name hpiece))
        rw [← hreading.source_eq, List.flatMap_append, List.flatMap_cons, ← List.append_assoc]
        exact List.infix_append _ _ _
  rw [render, hfilled bindings rfl, List.flatMap_congr hcopied, hreading.source_eq,
    String.ofList_toList]

end Template

end BattleItems
