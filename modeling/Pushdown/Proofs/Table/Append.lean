/-
**Growing a table.**

A pair goes to the end of the query, in front of the fragment.  The pairs of bindings are made of
query characters, so a table that grows by them keeps its ends free of blanks.

Main results:

* `Table.appendPair_eq` — where a pair goes;
* `Target.isQueryChar_pair` — the pairs of bindings are made of query characters;
* `Table.trim_appendPair` — growing keeps a table without blanks at its ends;
* `Plan.trim_extend`, `Plan.length_le_extend` — the same for a whole row of pairs.
-/

import Mathlib.Data.List.Basic
import Pushdown.Plan
import Pushdown.Proofs.Url.Growth

set_option autoImplicit false

namespace Pushdown

namespace Table

/-! ### Where a pair goes -/

/-- Every text is a front without `#` and a fragment with its mark, or nothing. -/
theorem exists_front_tail (uri : Text) :
    ∃ front tail, uri = front ++ tail ∧ '#' ∉ front ∧ Url.IsTail tail := by
  cases h : Text.splitFirst? '#' uri with
  | none =>
      exact ⟨uri, [], (List.append_nil uri).symm, Text.splitFirst?_eq_none_iff.1 h, Or.inl rfl⟩
  | some halves =>
      obtain ⟨huri, hnot⟩ := Text.eq_append_of_splitFirst? h
      exact ⟨halves.1, '#' :: halves.2, huri, hnot, Or.inr ⟨_, rfl⟩⟩

theorem appendPair_eq {front tail : Text} (hfront : '#' ∉ front) (htail : Url.IsTail tail)
    (pair : Text) :
    appendPair (front ++ tail) pair = front ++ pairSeparator front ++ pair ++ tail := by
  unfold appendPair
  rcases htail with rfl | ⟨fragment, rfl⟩
  · rw [List.append_nil, Text.splitFirst?_eq_none_iff.2 hfront, List.append_nil]
  · rw [Text.splitFirst?_append hfront]

/-! ### The ends of a table -/

/-- Growing keeps a table without blanks at its ends. -/
theorem trim_appendPair {uri pair : Text} (huri : Text.trim uri = uri) (hne : pair ≠ [])
    (hpair : ∀ c ∈ pair, isQueryChar c = true) :
    Text.trim (appendPair uri pair) = appendPair uri pair := by
  obtain ⟨front, tail, rfl, hfront, htail⟩ := exists_front_tail uri
  obtain ⟨hhead, hlast⟩ := Text.trim_eq_self_iff.1 huri
  rw [appendPair_eq hfront htail]
  refine Text.trim_eq_self_iff.2 ⟨fun c hc => ?_, fun c hc => ?_⟩
  · cases front with
    | nil =>
        have hmark : c = '?' := by simpa [pairSeparator] using hc.symm
        rw [hmark]
        decide
    | cons d front => exact hhead c hc
  · rcases htail with rfl | ⟨fragment, rfl⟩
    · rw [List.append_nil, List.getLast?_append_of_ne_nil _ hne] at hc
      exact isBlank_of_isQueryChar (hpair c (List.mem_of_getLast? hc))
    · rw [List.getLast?_append_of_ne_nil _ (by simp)] at hc hlast
      exact hlast c hc

/-- A pair makes a table longer. -/
theorem length_lt_appendPair {pair : Text} (uri : Text) (hne : pair ≠ []) :
    uri.length < (appendPair uri pair).length := by
  obtain ⟨front, tail, rfl, hfront, htail⟩ := exists_front_tail uri
  have hpos : 0 < pair.length := List.length_pos_iff.2 hne
  rw [appendPair_eq hfront htail]
  simp only [List.length_append]
  omega

end Table

/-! ### The pairs of bindings -/

namespace Target

theorem pair_ne_nil (target : Target) (value : Text) : target.pair value ≠ [] := by
  cases target <;> simp [pair, Table.paramPair, Table.headerPair]

/-- The pairs of bindings are made of query characters. -/
theorem isQueryChar_pair (target : Target) (value : Text) :
    ∀ c ∈ target.pair value, Table.isQueryChar c = true := by
  intro c hc
  cases target with
  | param name =>
      rcases List.mem_append.1 hc with hc | hc
      · exact Table.isQueryChar_encode name c hc
      · rcases List.mem_cons.1 hc with rfl | hc
        · decide
        · exact Table.isQueryChar_encode value c hc
  | header name =>
      rcases List.mem_append.1 hc with hc | hc
      · rcases List.mem_append.1 hc with hc | hc
        · have hprefix : ∀ d ∈ Table.headerPrefix, Table.isQueryChar d = true := by decide
          exact hprefix c hc
        · rcases List.mem_cons.1 hc with rfl | hc
          · decide
          · exact Table.isQueryChar_encode name c hc
      · rcases List.mem_cons.1 hc with rfl | hc
        · decide
        · exact Table.isQueryChar_encode value c hc

end Target

namespace Plan

theorem mem_pairs {bindings : List Binding} {pair : Text} :
    pair ∈ pairs bindings ↔ ∃ b ∈ bindings, ∃ v ∈ b.values, b.target.pair v = pair := by
  simp [pairs]

/-- A row of pairs keeps a table without blanks at its ends. -/
theorem trim_extend {uri : Text} (huri : Text.trim uri = uri) (bindings : List Binding) :
    Text.trim (extend uri (pairs bindings)) = extend uri (pairs bindings) := by
  have hpairs : ∀ pair ∈ pairs bindings,
      pair ≠ [] ∧ ∀ c ∈ pair, Table.isQueryChar c = true := by
    intro pair hpair
    obtain ⟨b, -, v, -, rfl⟩ := mem_pairs.1 hpair
    exact ⟨b.target.pair_ne_nil v, b.target.isQueryChar_pair v⟩
  revert hpairs
  generalize pairs bindings = row
  intro hpairs
  induction row generalizing uri with
  | nil => exact huri
  | cons pair row ih =>
      obtain ⟨hne, hchars⟩ := hpairs pair List.mem_cons_self
      exact ih (Table.trim_appendPair huri hne hchars)
        fun x hx => hpairs x (List.mem_cons_of_mem _ hx)

theorem length_le_extend (uri : Text) {row : List Text} (h : ∀ pair ∈ row, pair ≠ []) :
    uri.length + row.length ≤ (extend uri row).length := by
  induction row generalizing uri with
  | nil => exact Nat.le_refl _
  | cons pair row ih =>
      have hstep := Table.length_lt_appendPair uri (h pair List.mem_cons_self)
      have hrest := ih (Table.appendPair uri pair) fun x hx => h x (List.mem_cons_of_mem _ hx)
      simp only [List.length_cons, extend, List.foldl_cons] at hrest ⊢
      omega

end Plan

end Pushdown
