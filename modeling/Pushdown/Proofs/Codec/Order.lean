/-
**The order of octets.**

Texts are compared character by character, by scalar value.  A greater character has greater octets:
a longer form starts with a greater octet, and forms of one length are compared digit by digit.  So
texts stand in the same order as the octets that they are made of.

Main results:

* `Utf8.encodeChar_append_lt` — a character with a greater scalar value has greater octets, whatever
  stands behind;
* `Utf8.encode_lt_encode_iff` — **texts are ordered as their octets are**.
-/

import Mathlib.Tactic.SplitIfs
import Pushdown.Codec.Utf8
import Pushdown.Proofs.Text.Dictionary

set_option autoImplicit false

namespace Pushdown

namespace Utf8

/-- A character with a greater scalar value has greater octets, and the first octets that differ are
among those of the two characters. -/
theorem encodeChar_append_lt {c d : Char} (h : c.toNat < d.toNat) (s t : List Nat) :
    encodeChar c ++ s < encodeChar d ++ t := by
  -- One case for each two of the four forms; no case has a shorter form for the greater value.
  unfold encodeChar
  simp only
  split_ifs <;> simp only [List.cons_append, List.nil_append, List.cons_lt_cons_iff] <;> omega

theorem encode_cons (c : Char) (s : Text) : encode (c :: s) = encodeChar c ++ encode s :=
  List.flatMap_cons

theorem encodeChar_ne_nil (c : Char) : encodeChar c ≠ [] := by
  unfold encodeChar
  simp only
  split_ifs <;> simp

theorem encode_lt_of_precedes {a b : Text} (h : Text.precedes a b = true) :
    encode a < encode b := by
  induction a generalizing b with
  | nil =>
      cases b with
      | nil => exact absurd h (by simp [Text.precedes])
      | cons d b =>
          obtain ⟨x, rest, hx⟩ := List.exists_cons_of_ne_nil (encodeChar_ne_nil d)
          rw [encode_cons, hx, List.cons_append]
          exact List.nil_lt_cons x (rest ++ encode b)
  | cons c a ih =>
      cases b with
      | nil => exact absurd h (by simp [Text.precedes])
      | cons d b =>
          rw [encode_cons, encode_cons]
          by_cases hcd : c = d
          · subst hcd
            rw [Text.precedes, if_pos rfl] at h
            exact List.append_left_lt (ih h)
          · rw [Text.precedes, if_neg hcd, decide_eq_true_eq] at h
            exact encodeChar_append_lt h (encode a) (encode b)

/-- **Texts are ordered as their octets are.** -/
theorem encode_lt_encode_iff {a b : Text} :
    encode a < encode b ↔ Text.precedes a b = true := by
  constructor
  · intro h
    by_cases hab : a = b
    · subst hab
      exact absurd h (List.lt_irrefl (encode a))
    · rcases Text.precedes_total hab with hlt | hgt
      · exact hlt
      · exact absurd h (List.lt_asymm (encode_lt_of_precedes hgt))
  · exact encode_lt_of_precedes

end Utf8

end Pushdown
