/-
**Integers read and written.**

An integer in the range of a signed or an unsigned word of 64 bits is written in digits that fit the
significand of the reader, so it is read as the same integer.  The other way round, a number that is
read is of double precision or an integer of that range.

Main definitions:

* `Json.IsWord` — the range of integers that are kept exactly;
* `Json.EndsNumber` — a text that does not go on a number;
* `Json.leadingDigits`, `Json.readBehind` — the two steps of reading a number without its sign.

Main results:

* `Json.wholeDigits_ofNat` — the digits of a number are read as it;
* `Json.readNumber_integerText` — **a written integer is read as itself**;
* `Json.readNumber_cases` — what a number can be read as.
-/

import Mathlib.Logic.Basic
import Pushdown.Json.Parser
import Pushdown.Json.Printer
import Pushdown.Proofs.Outcome

set_option autoImplicit false

namespace Pushdown

namespace Json

/-- The integers that fit a signed or an unsigned word of 64 bits. -/
def IsWord (n : Int) : Prop := -0x8000000000000000 ≤ n ∧ n ≤ 0xFFFFFFFFFFFFFFFF

instance (n : Int) : Decidable (IsWord n) := inferInstanceAs (Decidable (_ ∧ _))

/-- A text that does not go on a number in front of it. -/
def EndsNumber (rest : Text) : Prop :=
  ∀ c ∈ rest.head?, isDigit c = false ∧ c ≠ '.' ∧ c ≠ 'e' ∧ c ≠ 'E'

/-! ### Digits -/

theorem digit_ofNat {d : Nat} (h : d < 10) :
    isDigit (Char.ofNat (48 + d)) = true ∧ digitValue (Char.ofNat (48 + d)) = d ∧
      (Char.ofNat (48 + d) = '0' → d = 0) := by
  have hall : ∀ k : Fin 10, isDigit (Char.ofNat (48 + k.val)) = true ∧
      digitValue (Char.ofNat (48 + k.val)) = k.val ∧
        (Char.ofNat (48 + k.val) = '0' → k.val = 0) := by decide
  exact hall ⟨d, h⟩

theorem digitValue_lt {c : Char} (h : isDigit c = true) : digitValue c < 10 := by
  simp only [isDigit, Bool.and_eq_true, decide_eq_true_eq, Char.le_def, UInt32.le_iff_toNat_le]
    at h
  have hbounds : '0'.val.toNat = 48 ∧ '9'.val.toNat = 57 := by decide
  have hc : c.toNat = c.val.toNat := rfl
  rw [digitValue]
  omega

/-- One more digit that fits the significand. -/
theorem wholeDigits_digit {n d : Nat} (hd : d < 10) (hfit : n * 10 + d ≤ maxSignificand)
    (s : Text) :
    wholeDigits ⟨n, 0, false⟩ (Char.ofNat (48 + d) :: s) =
      wholeDigits ⟨n * 10 + d, 0, false⟩ s := by
  obtain ⟨hdigit, hvalue, -⟩ := digit_ofNat hd
  rw [wholeDigits, if_pos hdigit, hvalue]
  simp [Nat.not_lt.2 hfit]

theorem wholeDigits_of_ends (n : Numeral) {rest : Text}
    (h : ∀ c ∈ rest.head?, isDigit c = false) : wholeDigits n rest = (n, rest) := by
  cases rest with
  | nil => rfl
  | cons c rest => simp [wholeDigits, h c rfl]

/-- The digits of a number are a first digit, which is zero only for zero, and further ones that are
read behind it up to the number. -/
theorem digitsFrom_read {fuel n : Nat} (hfuel : 0 < fuel) (hn : n < Nat.pow 10 fuel)
    (hfit : n ≤ maxSignificand) (acc : Text) :
    ∃ c ds, Text.digitsFrom fuel n acc = c :: (ds ++ acc) ∧ isDigit c = true ∧
      (c = '0' → n = 0) ∧
      ∀ s, wholeDigits ⟨digitValue c, 0, false⟩ (ds ++ s) = wholeDigits ⟨n, 0, false⟩ s := by
  -- The last digit goes in front of those that are there, and the digits before it are read first.
  induction fuel generalizing n acc with
  | zero => exact absurd hfuel (Nat.lt_irrefl 0)
  | succ fuel ih =>
      rw [Text.digitsFrom]
      by_cases hsmall : n < 10
      · obtain ⟨hdigit, hvalue, hzero⟩ := digit_ofNat hsmall
        have hmod : n % 10 = n := Nat.mod_eq_of_lt hsmall
        refine ⟨Char.ofNat (48 + n), [], by simp [hmod, hsmall], hdigit, hzero, fun s => ?_⟩
        rw [hvalue, List.nil_append]
      · have hdiv : n / 10 < Nat.pow 10 fuel := (Nat.div_lt_iff_lt_mul (by decide)).2 hn
        have hfuel' : 0 < fuel := by
          rcases Nat.eq_zero_or_pos fuel with rfl | hpos
          · have hone : n / 10 < 1 := hdiv
            omega
          · exact hpos
        obtain ⟨c, ds, hdigits, hdigit, hzero, hread⟩ :=
          ih hfuel' hdiv (by omega) (Char.ofNat (48 + n % 10) :: acc)
        refine ⟨c, ds ++ [Char.ofNat (48 + n % 10)], ?_, hdigit, fun hc => ?_, fun s => ?_⟩
        · simp only [if_neg hsmall, hdigits]
          simp
        · have := hzero hc
          omega
        · have hsum : n / 10 * 10 + n % 10 = n := by omega
          rw [List.append_assoc, hread, List.singleton_append,
            wholeDigits_digit (Nat.mod_lt n (by decide)) (hsum.symm ▸ hfit), hsum]

/-- The digits of a number that fits the significand. -/
theorem wholeDigits_ofNat {n : Nat} (hfit : n ≤ maxSignificand) :
    ∃ c ds, Text.ofNat n = c :: ds ∧ isDigit c = true ∧ (c = '0' → n = 0) ∧
      ∀ s, wholeDigits ⟨digitValue c, 0, false⟩ (ds ++ s) = wholeDigits ⟨n, 0, false⟩ s := by
  have hlog : n < Nat.pow 10 (n.log2 + 1) :=
    Nat.lt_of_lt_of_le Nat.lt_log2_self (Nat.pow_le_pow_left (by decide) _)
  obtain ⟨c, ds, hdigits, hrest⟩ := digitsFrom_read (Nat.succ_pos _) hlog hfit []
  exact ⟨c, ds, by rw [Text.ofNat, hdigits, List.append_nil], hrest⟩

/-! ### Written integers -/

/-- The digits in front of a number whose first one is `c`: a zero stands alone. -/
def leadingDigits (c : Char) (s : Text) : Option (Numeral × Text) :=
  if c = '0' then
    match s with
    | d :: _ => if isDigit d then none else some (⟨0, 0, false⟩, s)
    | [] => some (⟨0, 0, false⟩, s)
  else some (wholeDigits ⟨digitValue c, 0, false⟩ s)

/-- Reads what follows the leading digits of a number. -/
def readBehind (negative : Bool) : Option (Numeral × Text) → Except ReadError (Json × Text)
  | none => .error .unexpected
  | some (n, '.' :: rest) => readFraction negative n rest
  | some (n, 'e' :: rest) => readExponent negative n rest
  | some (n, 'E' :: rest) => readExponent negative n rest
  | some (n, rest) =>
      if n.full then (scaled negative n.significand n.power).map fun j => (j, rest)
      else (integerOrDouble negative n.significand).map fun j => (j, rest)

theorem readUnsigned_cons {c : Char} (hdigit : isDigit c = true) (negative : Bool) (s : Text) :
    readUnsigned negative (c :: s) = readBehind negative (leadingDigits c s) := by
  unfold readUnsigned
  simp only [hdigit, if_true]
  rfl

/-- A number ends behind its leading digits if no fraction and no exponent follows. -/
theorem readBehind_of_ends {negative : Bool} {rest : Text} (n : Nat) (hrest : EndsNumber rest) :
    readBehind negative (some (⟨n, 0, false⟩, rest)) =
      (integerOrDouble negative n).map fun j => (j, rest) := by
  unfold readBehind
  split
  · next heq => exact absurd heq (by simp)
  · next heq =>
      obtain ⟨-, rfl⟩ := Prod.mk.inj (Option.some.inj heq)
      exact absurd rfl (hrest _ rfl).2.1
  · next heq =>
      obtain ⟨-, rfl⟩ := Prod.mk.inj (Option.some.inj heq)
      exact absurd rfl (hrest _ rfl).2.2.1
  · next heq =>
      obtain ⟨-, rfl⟩ := Prod.mk.inj (Option.some.inj heq)
      exact absurd rfl (hrest _ rfl).2.2.2
  · next heq =>
      obtain ⟨rfl, rfl⟩ := Prod.mk.inj (Option.some.inj heq)
      rfl

/-- The digits of a number lead it. -/
theorem leadingDigits_ofNat {n : Nat} (hfit : n ≤ maxSignificand) :
    ∃ c ds, Text.ofNat n = c :: ds ∧ isDigit c = true ∧
      ∀ rest, EndsNumber rest →
        leadingDigits c (ds ++ rest) = some (⟨n, 0, false⟩, rest) := by
  obtain ⟨c, ds, hdigits, hdigit, hzero, hread⟩ := wholeDigits_ofNat hfit
  refine ⟨c, ds, hdigits, hdigit, fun rest hrest => ?_⟩
  unfold leadingDigits
  by_cases hc : c = '0'
  · obtain rfl := hzero hc
    obtain ⟨-, rfl⟩ := List.cons.inj (hdigits.symm.trans (rfl : Text.ofNat 0 = ['0']))
    rw [if_pos hc, List.nil_append]
    cases rest with
    | nil => rfl
    | cons d rest => simp [(hrest d rfl).1]
  · rw [if_neg hc, hread, wholeDigits_of_ends _ fun c hc => (hrest c hc).1]

theorem readUnsigned_ofNat (negative : Bool) {n : Nat} (hfit : n ≤ maxSignificand) {rest : Text}
    (hrest : EndsNumber rest) :
    readUnsigned negative (Text.ofNat n ++ rest) =
      (integerOrDouble negative n).map fun j => (j, rest) := by
  obtain ⟨c, ds, hdigits, hdigit, hleading⟩ := leadingDigits_ofNat hfit
  rw [hdigits, List.cons_append, readUnsigned_cons hdigit, hleading rest hrest,
    readBehind_of_ends n hrest]

/-- **A written integer is read as itself.** -/
theorem readNumber_integerText {n : Int} (hn : IsWord n) {rest : Text} (hrest : EndsNumber rest) :
    readNumber (integerText n ++ rest) = .ok (integer n, rest) := by
  obtain ⟨hlow, hhigh⟩ := hn
  have hfit : n.natAbs ≤ maxSignificand := by
    rw [maxSignificand]
    omega
  by_cases hneg : n < 0
  · rw [integerText, if_pos hneg, List.cons_append, readNumber,
      readUnsigned_ofNat true hfit hrest]
    have hrange : ¬ (n.natAbs = 0 ∨ 0x8000000000000000 < n.natAbs) := by omega
    have hvalue : -(n.natAbs : Int) = n := by omega
    rw [integerOrDouble, if_neg (by decide), if_neg hrange, hvalue]
    rfl
  · rw [integerText, if_neg hneg]
    have hvalue : (n.natAbs : Int) = n := by omega
    have hunsigned := readUnsigned_ofNat false hfit hrest
    obtain ⟨c, ds, hdigits, hdigit, -⟩ := leadingDigits_ofNat hfit
    rw [hdigits, List.cons_append] at hunsigned ⊢
    unfold readNumber
    split
    · next heq =>
        obtain ⟨rfl, -⟩ := List.cons.inj heq
        exact absurd hdigit (by decide)
    · rw [hunsigned]
      simp [integerOrDouble, hvalue, Except.map]

/-! ### What numbers are read as -/

theorem double_of_scaled {negative : Bool} {significand : Nat} {power : Int} {b : Json}
    (h : scaled negative significand power = .ok b) : ∃ x, b = double x := by
  unfold scaled at h
  split at h
  · exact ⟨_, (Except.ok.inj h).symm⟩
  · exact absurd h (by simp)

theorem double_of_map_scaled {negative : Bool} {significand : Nat} {power : Int} {b : Json}
    {s rest : Text}
    (h : ((scaled negative significand power).map fun j => (j, s)) = .ok (b, rest)) :
    ∃ x, b = double x := by
  obtain ⟨j, hj, hpair⟩ := Outcome.exists_of_map_eq_ok h
  exact (Prod.mk.inj hpair).1 ▸ double_of_scaled hj

theorem double_of_readExponent {negative : Bool} {n : Numeral} {s rest : Text} {b : Json}
    (h : readExponent negative n s = .ok (b, rest)) : ∃ x, b = double x := by
  unfold readExponent at h
  simp only at h
  split at h
  · exact absurd h (by simp)
  · split at h
    · split at h
      · exact double_of_map_scaled h
      · rcases ite_eq_iff.1 h with ⟨-, h⟩ | ⟨-, h⟩
        · exact absurd h (by simp)
        · exact ⟨_, (Prod.mk.inj (Except.ok.inj h)).1.symm⟩
    · exact absurd h (by simp)

theorem double_of_readFraction {negative : Bool} {n : Numeral} {s rest : Text} {b : Json}
    (h : readFraction negative n s = .ok (b, rest)) : ∃ x, b = double x := by
  unfold readFraction at h
  split at h
  · exact absurd h (by simp)
  · split at h
    · simp only at h
      unfold readTail at h
      split at h
      · exact double_of_readExponent h
      · exact double_of_readExponent h
      · exact double_of_map_scaled h
    · exact absurd h (by simp)

/-- The significand of a number stays in its range. -/
theorem wholeDigits_le {n : Numeral} (hn : n.significand ≤ maxSignificand) (s : Text) :
    (wholeDigits n s).1.significand ≤ maxSignificand := by
  induction s generalizing n with
  | nil => exact hn
  | cons c s ih =>
      unfold wholeDigits
      simp only
      split
      · split
        · exact ih hn
        · next hfit =>
            refine ih ?_
            simp only [Bool.or_eq_true, decide_eq_true_eq, not_or, Nat.not_lt] at hfit
            exact hfit.2
      · exact hn

theorem cases_of_integerOrDouble {negative : Bool} {n : Nat} (hn : n ≤ maxSignificand) {b : Json}
    (h : integerOrDouble negative n = .ok b) :
    (∃ x, b = double x) ∨ ∃ m, b = integer m ∧ IsWord m := by
  rw [maxSignificand] at hn
  unfold integerOrDouble at h
  split at h
  · exact Or.inr ⟨n, (Except.ok.inj h).symm, by omega, by omega⟩
  · split at h
    · exact Or.inl (double_of_scaled h)
    · exact Or.inr ⟨-n, (Except.ok.inj h).symm, by omega, by omega⟩

theorem leadingDigits_le {c : Char} {s rest : Text} {n : Numeral} (hdigit : isDigit c = true)
    (h : leadingDigits c s = some (n, rest)) : n.significand ≤ maxSignificand := by
  unfold leadingDigits at h
  split at h
  · split at h
    · split at h
      · exact absurd h (by simp)
      · rw [← (Prod.mk.inj (Option.some.inj h)).1]
        exact Nat.zero_le _
    · rw [← (Prod.mk.inj (Option.some.inj h)).1]
      exact Nat.zero_le _
  · have hfirst : digitValue c ≤ maxSignificand :=
      Nat.le_trans (Nat.le_of_lt (digitValue_lt hdigit)) (by decide)
    have hle := wholeDigits_le (n := ⟨digitValue c, 0, false⟩) hfirst s
    rw [Option.some.inj h] at hle
    exact hle

theorem readUnsigned_cases {negative : Bool} {s rest : Text} {b : Json}
    (h : readUnsigned negative s = .ok (b, rest)) :
    (∃ x, b = double x) ∨ ∃ n, b = integer n ∧ IsWord n := by
  cases s with
  | nil => exact absurd h (by simp [readUnsigned])
  | cons c s =>
      by_cases hdigit : isDigit c = true
      · rw [readUnsigned_cons hdigit] at h
        unfold readBehind at h
        split at h
        · exact absurd h (by simp)
        · exact Or.inl (double_of_readFraction h)
        · exact Or.inl (double_of_readExponent h)
        · exact Or.inl (double_of_readExponent h)
        · next hleading =>
            split at h
            · exact Or.inl (double_of_map_scaled h)
            · obtain ⟨j, hj, hpair⟩ := Outcome.exists_of_map_eq_ok h
              exact (Prod.mk.inj hpair).1 ▸
                cases_of_integerOrDouble (leadingDigits_le hdigit hleading) hj
      · exact absurd h (by simp [readUnsigned, hdigit])

/-- What a number can be read as. -/
theorem readNumber_cases {s rest : Text} {b : Json} (h : readNumber s = .ok (b, rest)) :
    (∃ x, b = double x) ∨ ∃ n, b = integer n ∧ IsWord n := by
  unfold readNumber at h
  split at h
  · exact readUnsigned_cases h
  · exact readUnsigned_cases h

end Json

end Pushdown
