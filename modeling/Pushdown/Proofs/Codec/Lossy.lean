/-
**Reading a form piece by piece.**

The reader of forms works on octets, and replaces those that are not UTF-8.  Still it can be cut at
a character like `?` that is one octet, is no part of an escape and continues no character: what
stands in front of it and what stands behind it are read on their own, also where an escape or a
character breaks off in front of it.

Main definitions:

* `Utf8.Reading.closed` — a reading once an octet follows that continues no character;
* `Percent.Separates` — a character at which a text can be cut.

Main results:

* `Utf8.decodeLossyFrom_append_ascii` — octets are decoded on both sides of an ASCII octet;
* `Percent.octets_append_cons` — escapes are read on both sides of a separating character;
* `Form.decode_append_cons` — **both sides are read on their own**.
-/

import Pushdown.Proofs.Codec.Form

set_option autoImplicit false

namespace Pushdown

namespace Utf8

/-! ### Octets in front of an ASCII octet -/

/-- A reading of a lead octet and `length` further ones, once an octet follows that continues no
character: what broke off is invalid up to there. -/
def Reading.closed (length : Nat) : Reading → Reading
  | .incomplete => .invalid (length + 1)
  | r => r

/-- The number of octets behind the lead octet that belong to a reading. -/
def Reading.further : Reading → Nat
  | .char _ width => width - 1
  | .invalid width => width - 1
  | .incomplete => 0

/-- An octet below 0x80 continues no character. -/
theorem not_continues {b : Nat} (hb : b < 0x80) (a : Nat) :
    isTail b = false ∧ isSecondOfThree a b = false ∧ isSecondOfFour a b = false := by
  have htail : isTail b = false := by
    simp only [isTail, Bool.and_eq_false_iff, decide_eq_false_iff_not]
    omega
  refine ⟨htail, ?_, ?_⟩
  · unfold isSecondOfThree
    split
    · simp only [Bool.and_eq_false_iff, decide_eq_false_iff_not]
      omega
    · split
      · simp only [Bool.and_eq_false_iff, decide_eq_false_iff_not]
        omega
      · exact htail
  · unfold isSecondOfFour
    split
    · simp only [Bool.and_eq_false_iff, decide_eq_false_iff_not]
      omega
    · split
      · simp only [Bool.and_eq_false_iff, decide_eq_false_iff_not]
        omega
      · exact htail

section

variable {b : Nat} (hb : b < 0x80) (more : List Nat)

include hb

theorem readTwo_append_ascii (a : Nat) (rest : List Nat) :
    readTwo a (rest ++ b :: more) = (readTwo a rest).closed rest.length ∧
      (readTwo a rest).further ≤ rest.length := by
  obtain ⟨htail, -, -⟩ := not_continues hb a
  cases rest with
  | nil => simp [readTwo, htail, Reading.closed, Reading.further]
  | cons x rest =>
      cases hx : isTail x <;> simp [readTwo, hx, Reading.closed, Reading.further]

theorem readThree_append_ascii (a : Nat) (rest : List Nat) :
    readThree a (rest ++ b :: more) = (readThree a rest).closed rest.length ∧
      (readThree a rest).further ≤ rest.length := by
  obtain ⟨htail, hsecond, -⟩ := not_continues hb a
  cases rest with
  | nil => simp [readThree, hsecond, Reading.closed, Reading.further]
  | cons x rest =>
      cases hx : isSecondOfThree a x with
      | false => simp [readThree, hx, Reading.closed, Reading.further]
      | true =>
          cases rest with
          | nil => simp [readThree, hx, htail, Reading.closed, Reading.further]
          | cons y rest =>
              cases hy : isTail y <;> simp [readThree, hx, hy, Reading.closed, Reading.further]

theorem readFour_append_ascii (a : Nat) (rest : List Nat) :
    readFour a (rest ++ b :: more) = (readFour a rest).closed rest.length ∧
      (readFour a rest).further ≤ rest.length := by
  obtain ⟨htail, -, hsecond⟩ := not_continues hb a
  cases rest with
  | nil => simp [readFour, hsecond, Reading.closed, Reading.further]
  | cons x rest =>
      cases hx : isSecondOfFour a x with
      | false => simp [readFour, hx, Reading.closed, Reading.further]
      | true =>
          cases rest with
          | nil => simp [readFour, hx, htail, Reading.closed, Reading.further]
          | cons y rest =>
              cases hy : isTail y with
              | false => simp [readFour, hx, hy, Reading.closed, Reading.further]
              | true =>
                  cases rest with
                  | nil => simp [readFour, hx, hy, htail, Reading.closed, Reading.further]
                  | cons z rest =>
                      cases hz : isTail z <;>
                        simp [readFour, hx, hy, hz, Reading.closed, Reading.further]

/-- A reading in front of an ASCII octet ends there at the latest. -/
theorem read_append_ascii (a : Nat) (rest : List Nat) :
    read a (rest ++ b :: more) = (read a rest).closed rest.length ∧
      (read a rest).further ≤ rest.length := by
  unfold read
  split
  · exact ⟨rfl, Nat.zero_le _⟩
  split
  · exact ⟨rfl, Nat.zero_le _⟩
  split
  · exact readTwo_append_ascii hb more a rest
  split
  · exact readThree_append_ascii hb more a rest
  split
  · exact readFour_append_ascii hb more a rest
  · exact ⟨rfl, Nat.zero_le _⟩

theorem decodeLossyFrom_ascii :
    decodeLossyFrom 0 (b :: more) = Char.ofNat b :: decodeLossyFrom 0 more := by
  simp [decodeLossyFrom, read, hb]

/-- Octets are decoded on both sides of an ASCII octet. -/
theorem decodeLossyFrom_append_ascii {skip : Nat} {bytes : List Nat}
    (hskip : skip ≤ bytes.length) :
    decodeLossyFrom skip (bytes ++ b :: more) =
      decodeLossyFrom skip bytes ++ Char.ofNat b :: decodeLossyFrom 0 more := by
  induction bytes generalizing skip with
  | nil =>
      obtain rfl := Nat.le_zero.1 hskip
      exact decodeLossyFrom_ascii hb more
  | cons a bytes ih =>
      cases skip with
      | succ skip => exact ih (Nat.le_of_succ_le_succ hskip)
      | zero =>
          obtain ⟨hread, hfurther⟩ := read_append_ascii hb more a bytes
          rw [List.cons_append, decodeLossyFrom, decodeLossyFrom, hread]
          cases h : read a bytes with
          | char c width =>
              rw [h] at hfurther
              exact congrArg _ (ih hfurther)
          | invalid width =>
              rw [h] at hfurther
              exact congrArg _ (ih hfurther)
          | incomplete =>
              -- The octets that broke off are one replacement.
              simp only [Reading.closed, Nat.add_sub_cancel, decodeLossyFrom_append,
                decodeLossyFrom_ascii hb, List.singleton_append]

end

end Utf8

namespace Percent

/-! ### Escapes in front of a separating character -/

/-- A character that is one octet and no part of an escape. -/
structure Separates (c : Char) : Prop where
  ascii : c.toNat < 0x80
  not_percent : c ≠ '%'
  not_digit : Text.hexValue? c = none

theorem separates_question : Separates '?' := ⟨by decide, by decide, by decide⟩

/-- Escapes are read on both sides of a separating character. -/
theorem octets_append_cons {c : Char} (hc : Separates c) (b : Text) : ∀ a : Text,
    octets (a ++ c :: b) = octets a ++ Utf8.encodeChar c ++ octets b
  | [] => octets_cons_of_ne hc.not_percent b
  | [x] => by
      -- The separating character is no digit of an escape that starts in front of it.
      have hstep : octets (x :: c :: b) = Utf8.encodeChar x ++ octets (c :: b) := by
        cases b with
        | nil => simp [octets]
        | cons d b => simp [octets, octet?, hc.not_digit]
      rw [List.singleton_append, hstep, octets_cons_of_ne hc.not_percent, octets,
        List.append_assoc]
  | [x, y] => by
      have hstep : octets (x :: y :: c :: b) = Utf8.encodeChar x ++ octets (y :: c :: b) := by
        have hescape : octet? y c = none := by
          unfold octet?
          cases Text.hexValue? y <;> simp [hc.not_digit]
        simp [octets, hescape]
      have hrest := octets_append_cons hc b [y]
      rw [List.singleton_append] at hrest
      rw [List.cons_append, List.singleton_append, hstep, hrest]
      simp [octets]
  | x :: h :: l :: rest => by
      have hrest := octets_append_cons hc b rest
      have hnext := octets_append_cons hc b (h :: l :: rest)
      simp only [List.cons_append] at hnext ⊢
      by_cases hx : x = '%'
      · cases hescape : octet? h l with
        | none => simp only [octets, hx, hescape, if_true, hnext, List.append_assoc]
        | some octet => simp only [octets, hx, hescape, if_true, hrest, List.cons_append]
      · simp only [octets, hx, if_false, hnext, List.append_assoc]

end Percent

namespace Form

/-- **Both sides are read on their own.** -/
theorem decode_append_cons {c : Char} (hc : Percent.Separates c) (hplus : c ≠ '+') (a b : Text) :
    decode (a ++ c :: b) = decode a ++ c :: decode b := by
  have hoctet : Utf8.encodeChar c = [c.toNat] := by simp [Utf8.encodeChar, hc.ascii]
  simp only [decode, List.map_append, List.map_cons, if_neg hplus]
  rw [Percent.octets_append_cons hc, hoctet, List.append_assoc, List.singleton_append,
    Utf8.decodeLossy, Utf8.decodeLossyFrom_append_ascii hc.ascii _ (Nat.zero_le _),
    Char.ofNat_toNat]
  rfl

end Form

end Pushdown
