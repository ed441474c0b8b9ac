/-
**White space.**

Blank characters are those with the Unicode property White_Space.  Virtual tables, hosts, names and
statements are trimmed by this class; it is wider than the four blanks of JSON.

Main definitions:

* `Text.isBlank` — the class;
* `Text.trim`, `Text.trimLeft`, `Text.trimRight` — the text without blanks at its ends;
* `Text.isBlankText` — nothing but blanks.

Main results:

* `Text.trim_eq_self_iff` — a text is its own trim exactly when it neither starts nor ends with a
  blank.
-/

import Pushdown.Text.Basic

set_option autoImplicit false

namespace Pushdown

namespace Text

/-- The characters with the Unicode property White_Space. -/
def isBlank (c : Char) : Bool :=
  let n := c.toNat
  (9 ≤ n && n ≤ 13) || n == 32 || n == 0x85 || n == 0xA0 || n == 0x1680 ||
    (0x2000 ≤ n && n ≤ 0x200A) || n == 0x2028 || n == 0x2029 || n == 0x202F || n == 0x205F ||
    n == 0x3000

/-- The text from its first character that is not blank. -/
def trimLeft (s : Text) : Text := s.dropWhile isBlank

/-- The text up to its last character that is not blank. -/
def trimRight (s : Text) : Text := (s.reverse.dropWhile isBlank).reverse

/-- The text without blanks at its ends. -/
def trim (s : Text) : Text := trimRight (trimLeft s)

/-- Whether the text has no character but blanks. -/
def isBlankText (s : Text) : Bool := s.all isBlank

theorem trimLeft_eq_self_iff {s : Text} :
    trimLeft s = s ↔ ∀ c ∈ s.head?, isBlank c = false := by
  cases s with
  | nil => simp [trimLeft]
  | cons c rest =>
      by_cases h : isBlank c = true
      · have hlen : (List.dropWhile isBlank rest).length ≤ rest.length :=
          (List.dropWhile_sublist _).length_le
        simp only [trimLeft, List.dropWhile_cons, h, if_true, List.head?_cons, Option.mem_def,
          Option.some.injEq, forall_eq', Bool.true_eq_false, iff_false]
        intro e
        have := congrArg List.length e
        simp only [List.length_cons] at this
        omega
      · simp [trimLeft, h]

theorem trimRight_eq_self_iff {s : Text} :
    trimRight s = s ↔ ∀ c ∈ s.getLast?, isBlank c = false := by
  have h := @trimLeft_eq_self_iff s.reverse
  rw [List.head?_reverse] at h
  rw [← h, trimRight, trimLeft]
  constructor
  · intro e
    have := congrArg List.reverse e
    simpa using this
  · intro e
    rw [e, List.reverse_reverse]

theorem trim_eq_self_iff {s : Text} :
    trim s = s ↔ (∀ c ∈ s.head?, isBlank c = false) ∧ ∀ c ∈ s.getLast?, isBlank c = false := by
  constructor
  · intro h
    have hl : trimLeft s = s := by
      have h1 : (trim s).length ≤ (trimLeft s).length := by
        simpa [trim, trimRight] using
          (List.dropWhile_sublist (l := (trimLeft s).reverse) isBlank).length_le
      have h2 : trimLeft s <:+ s := List.dropWhile_suffix _
      exact h2.eq_of_length_le (by rw [h] at h1; exact h1)
    have hr : trimRight s = s := by rw [trim, hl] at h; exact h
    exact ⟨trimLeft_eq_self_iff.1 hl, trimRight_eq_self_iff.1 hr⟩
  · rintro ⟨hl, hr⟩
    rw [trim, trimLeft_eq_self_iff.2 hl, trimRight_eq_self_iff.2 hr]

end Text

end Pushdown
