/-
**Passes until one changes nothing.**

Empty groups are removed in passes, and the passes are repeated until one changes nothing.  A pass
that changes a text makes it shorter, so there are no more changing passes than characters, and the
bound that the library computes with is never reached.  A pass that changes nothing has found no
match, so there is none in the text that is returned.

Main definitions:

* `Cleanup.Rounds` — the loop without a bound on its passes.

Main results:

* `Cleanup.rounds_stripFrom` — the loop ends, and a bound that covers the text is enough;
* `Cleanup.Rounds.eq_stripGroups` — what the loop ends with is what the library returns;
* `Cleanup.pass_induction` — induction along the passes;
* `Cleanup.stripGroups_finishes` — **the loop ends on every text and leaves no match**.
-/

import Pushdown.Proofs.Cleanup.Tidy

set_option autoImplicit false

namespace Pushdown

namespace Cleanup

/-! ### The loop -/

/-- From a text the loop comes to another one in a number of passes that change the text, and the
next pass does not. -/
inductive Rounds : Nat → Text → Text → Prop
  | done {s : Text} : stripPass s = s → Rounds 0 s s
  | pass {n : Nat} {s r : Text} : stripPass s ≠ s → Rounds n (stripPass s) r → Rounds (n + 1) s r

theorem length_stripPass_lt {s : Text} (h : stripPass s ≠ s) : (stripPass s).length < s.length := by
  rcases stripPass_cases s with ⟨-, hlt⟩ | ⟨-, heq⟩
  · exact hlt
  · exact absurd heq h

/-- The loop ends before the text is used up, so a bound that covers the text changes nothing. -/
theorem rounds_stripFrom {fuel : Nat} {s : Text} (h : s.length ≤ fuel) :
    ∃ n, Rounds n s (stripFrom fuel s) ∧ n + (stripFrom fuel s).length ≤ s.length := by
  induction fuel generalizing s with
  | zero =>
      obtain rfl : s = [] := List.eq_nil_of_length_eq_zero (Nat.le_zero.1 h)
      exact ⟨0, Rounds.done rfl, Nat.le_refl _⟩
  | succ fuel ih =>
      rw [stripFrom]
      by_cases hpass : stripPass s = s
      · rw [if_pos hpass]
        exact ⟨0, Rounds.done hpass, by omega⟩
      · have hlt := length_stripPass_lt hpass
        obtain ⟨n, hrounds, hlength⟩ := ih (s := stripPass s) (by omega)
        rw [if_neg hpass]
        exact ⟨n + 1, Rounds.pass hpass hrounds, by omega⟩

theorem rounds_stripGroups (s : Text) :
    ∃ n, Rounds n s (stripGroups s) ∧ n + (stripGroups s).length ≤ s.length :=
  rounds_stripFrom (Nat.le_succ s.length)

/-- The loop has no choice. -/
theorem Rounds.unique {m n : Nat} {s r t : Text} (hr : Rounds m s r) (ht : Rounds n s t) :
    r = t := by
  induction hr generalizing n with
  | done hdone =>
      cases ht with
      | done => rfl
      | pass hpass => exact absurd hdone hpass
  | pass hpass _ ih =>
      cases ht with
      | done hdone => exact absurd hdone hpass
      | pass _ hrest => exact ih hrest

theorem Rounds.eq_stripGroups {n : Nat} {s r : Text} (h : Rounds n s r) : r = stripGroups s := by
  obtain ⟨m, hm, -⟩ := rounds_stripGroups s
  exact h.unique hm

theorem Rounds.fixed {n : Nat} {s r : Text} (h : Rounds n s r) : stripPass r = r := by
  induction h with
  | done hdone => exact hdone
  | pass _ _ ih => exact ih

/-- Induction along the passes. -/
theorem pass_induction {motive : Text → Prop} (done : ∀ s, stripPass s = s → motive s)
    (pass : ∀ s, stripPass s ≠ s → motive (stripPass s) → motive s) (s : Text) : motive s := by
  obtain ⟨n, hrounds, -⟩ := rounds_stripGroups s
  generalize stripGroups s = r at hrounds
  induction hrounds with
  | done hdone => exact done _ hdone
  | pass hpass _ ih => exact pass _ hpass ih

/-! ### What the loop returns -/

theorem stripGroups_of_stripPass {s : Text} (h : stripPass s = s) : stripGroups s = s :=
  (Rounds.done h).eq_stripGroups.symm

theorem stripGroups_stripPass (s : Text) : stripGroups (stripPass s) = stripGroups s := by
  by_cases hpass : stripPass s = s
  · rw [hpass]
  · obtain ⟨n, hrounds, -⟩ := rounds_stripGroups (stripPass s)
    exact (Rounds.pass hpass hrounds).eq_stripGroups

theorem stripGroups_stripGroups (s : Text) : stripGroups (stripGroups s) = stripGroups s := by
  obtain ⟨n, hrounds, -⟩ := rounds_stripGroups s
  exact stripGroups_of_stripPass hrounds.fixed

/-- **The loop ends on every text and leaves no match.**  Every pass that changes a text makes it
shorter.  From any text the loop ends, in one way and before the text is used up, with the text that
is returned, and in no stretch of that between quoted runs an `AND` or a `WHERE` has an empty group
behind it. -/
theorem stripGroups_finishes (s : Text) :
    (∀ t, stripPass t ≠ t → (stripPass t).length < t.length) ∧
      (∃ n, Rounds n s (stripGroups s) ∧ n + (stripGroups s).length ≤ s.length) ∧
      (∀ n r, Rounds n s r → r = stripGroups s) ∧
      ∀ stretch ∈ stretches (Segment.scan (stripGroups s)),
        ¬ Grouped andWord stretch ∧ ¬ Grouped whereWord stretch := by
  refine ⟨fun t ht => length_stripPass_lt ht, rounds_stripGroups s,
    fun n r hr => hr.eq_stripGroups, ?_⟩
  intro stretch hstretch
  have hnone := stripGroups_eq_self_iff.1 (stripGroups_stripGroups s) stretch hstretch
  exact not_or.1 hnone

end Cleanup

end Pushdown
