/-
**How deep a value nests.**

A value comes back from its compact text if there is no number of double precision in it, a program
can hold it and its containers nest at most as deep as the reader allows.  Each of the three is a
recursion over the value, so they can be computed; together they say the same as the rules by which
exact values are built.

Main definitions:

* `Json.levels` — how deep the containers of a value nest;
* `Json.isProper` — integers fit a word, and objects list their members by increasing name;
* `Json.IsPlain` — a proper value without numbers of double precision, at most 127 levels deep.

Main results:

* `Json.exact_iff` — **the exact values are the proper ones that do not nest too deep**;
* `Json.parse_compact_iff` — which values come back from their compact text.
-/

import Mathlib.Tactic.Tauto
import Pushdown.Proofs.Json.RoundTrip

set_option autoImplicit false

namespace Pushdown

namespace Json

/-! ### Levels and proper values -/

mutual

/-- How deep the containers of a value nest; a value that is no container has no level. -/
def levels : Json → Nat
  | array items => levelsOfItems items + 1
  | object members => levelsOfMembers members + 1
  | _ => 0

/-- The levels of the deepest item. -/
def levelsOfItems : List Json → Nat
  | [] => 0
  | item :: rest => max (levels item) (levelsOfItems rest)

/-- The levels of the deepest member. -/
def levelsOfMembers : List (Text × Json) → Nat
  | [] => 0
  | (_, value) :: rest => max (levels value) (levelsOfMembers rest)

end

mutual

/-- Whether a program can hold a value: every integer fits a signed or an unsigned word, and every
object lists its members by increasing name, one for each name. -/
def isProper : Json → Bool
  | integer n => decide (IsWord n)
  | array items => itemsAreProper items
  | object members =>
      decide (members.Pairwise fun a b => Text.precedes a.1 b.1 = true) && membersAreProper members
  | _ => true

/-- Whether all items are proper. -/
def itemsAreProper : List Json → Bool
  | [] => true
  | item :: rest => isProper item && itemsAreProper rest

/-- Whether the values of all members are proper. -/
def membersAreProper : List (Text × Json) → Bool
  | [] => true
  | (_, value) :: rest => isProper value && membersAreProper rest

end

/-! ### Exact values -/

theorem exact_integer_iff {depth : Nat} {n : Int} : Exact depth (integer n) ↔ IsWord n := by
  constructor
  · intro h
    cases h with
    | integer _ hn => exact hn
  · exact Exact.integer depth

theorem not_exact_double {depth : Nat} {x : Double} : ¬ Exact depth (double x) := by
  intro h
  cases h

theorem exact_array_iff {depth : Nat} {items : List Json} :
    Exact depth (array items) ↔
      ∃ lower, depth = lower + 1 ∧ ∀ item ∈ items, Exact lower item := by
  constructor
  · intro h
    cases h with
    | array hitems => exact ⟨_, rfl, hitems⟩
  · rintro ⟨lower, rfl, hitems⟩
    exact Exact.array hitems

theorem exact_object_iff {depth : Nat} {members : List (Text × Json)} :
    Exact depth (object members) ↔
      ∃ lower, depth = lower + 1 ∧
        (members.Pairwise fun a b => Text.precedes a.1 b.1 = true) ∧
        ∀ m ∈ members, Exact lower m.2 := by
  constructor
  · intro h
    cases h with
    | object hnames hmembers => exact ⟨_, rfl, hnames, hmembers⟩
  · rintro ⟨lower, rfl, hnames, hmembers⟩
    exact Exact.object hnames hmembers

mutual

/-- **The exact values are the proper ones that do not nest too deep**, without numbers of double
precision. -/
theorem exact_iff : ∀ (b : Json) (depth : Nat),
    Exact depth b ↔ b.hasDouble = false ∧ b.isProper = true ∧ b.levels ≤ depth
  | null, depth => by simp [Exact.null, hasDouble, isProper, levels]
  | bool b, depth => by simp [Exact.bool, hasDouble, isProper, levels]
  | integer n, depth => by simp [exact_integer_iff, hasDouble, isProper, levels]
  | double x, depth => by simp [not_exact_double, hasDouble]
  | string s, depth => by simp [Exact.string, hasDouble, isProper, levels]
  | array items, depth => by
      rw [exact_array_iff, hasDouble, isProper, levels]
      constructor
      · rintro ⟨lower, rfl, hitems⟩
        obtain ⟨hdouble, hproper, hlevels⟩ := (exact_items_iff items lower).1 hitems
        exact ⟨hdouble, hproper, Nat.succ_le_succ hlevels⟩
      · rintro ⟨hdouble, hproper, hlevels⟩
        obtain ⟨lower, rfl⟩ : ∃ lower, depth = lower + 1 := ⟨depth - 1, by omega⟩
        have hitems := (exact_items_iff items lower).2
          ⟨hdouble, hproper, Nat.le_of_succ_le_succ hlevels⟩
        exact ⟨lower, rfl, hitems⟩
  | object members, depth => by
      rw [exact_object_iff, hasDouble, isProper, levels, Bool.and_eq_true, decide_eq_true_eq]
      constructor
      · rintro ⟨lower, rfl, hnames, hmembers⟩
        obtain ⟨hdouble, hproper, hlevels⟩ := (exact_members_iff members lower).1 hmembers
        exact ⟨hdouble, ⟨hnames, hproper⟩, Nat.succ_le_succ hlevels⟩
      · rintro ⟨hdouble, ⟨hnames, hproper⟩, hlevels⟩
        obtain ⟨lower, rfl⟩ : ∃ lower, depth = lower + 1 := ⟨depth - 1, by omega⟩
        have hmembers := (exact_members_iff members lower).2
          ⟨hdouble, hproper, Nat.le_of_succ_le_succ hlevels⟩
        exact ⟨lower, rfl, hnames, hmembers⟩

theorem exact_items_iff : ∀ (items : List Json) (depth : Nat),
    (∀ item ∈ items, Exact depth item) ↔
      itemsHaveDouble items = false ∧ itemsAreProper items = true ∧ levelsOfItems items ≤ depth
  | [], depth => by simp [itemsHaveDouble, itemsAreProper, levelsOfItems]
  | item :: rest, depth => by
      rw [List.forall_mem_cons, exact_iff item depth, exact_items_iff rest depth,
        itemsHaveDouble, itemsAreProper, levelsOfItems, Bool.or_eq_false_iff, Bool.and_eq_true,
        Nat.max_le]
      tauto

theorem exact_members_iff : ∀ (members : List (Text × Json)) (depth : Nat),
    (∀ m ∈ members, Exact depth m.2) ↔
      membersHaveDouble members = false ∧ membersAreProper members = true ∧
        levelsOfMembers members ≤ depth
  | [], depth => by simp [membersHaveDouble, membersAreProper, levelsOfMembers]
  | (name, value) :: rest, depth => by
      rw [List.forall_mem_cons, exact_iff value depth, exact_members_iff rest depth,
        membersHaveDouble, membersAreProper, levelsOfMembers, Bool.or_eq_false_iff,
        Bool.and_eq_true, Nat.max_le]
      tauto

end

/-- A proper value without numbers of double precision whose containers nest at most 127 levels
deep. -/
structure IsPlain (b : Json) : Prop where
  no_double : b.hasDouble = false
  proper : b.isProper = true
  shallow : b.levels ≤ 127

/-- Without numbers of double precision, the values that come back from their compact text are the
proper ones that do not nest too deep. -/
theorem parse_compact_iff {b : Json} (hdouble : b.hasDouble = false) :
    parse b.compact = .ok b ↔ b.isProper = true ∧ b.levels ≤ depthLimit := by
  constructor
  · intro hread
    obtain ⟨-, hproper, hlevels⟩ := (exact_iff b depthLimit).1 (exact_of_parse hread hdouble)
    exact ⟨hproper, hlevels⟩
  · rintro ⟨hproper, hlevels⟩
    exact parse_compact ((exact_iff b depthLimit).2 ⟨hdouble, hproper, hlevels⟩)

theorem IsPlain.parse_compact {b : Json} (h : b.IsPlain) : parse b.compact = .ok b :=
  (parse_compact_iff h.no_double).2 ⟨h.proper, h.shallow⟩

end Json

end Pushdown
