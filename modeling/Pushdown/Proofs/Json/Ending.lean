/-
**Where a JSON value ends.**

Every reader takes a front of the text whose last character is a digit, a quote, a closing bracket
or brace, or the last letter of a word.  So a text that is read as a whole ends in one of these, or
in a blank behind it.

Main definitions:

* `Json.isEnding` — the characters in which a value can end;
* `Json.Takes` — a front with such an end is taken from a text;
* `Json.Counts` — digits are taken from a text.

Main results:

* `Json.takes_readValue` — a value that is read takes such a front;
* `Json.isEnding_of_parse` — **the last character of a text that is read as a value**.
-/

import Mathlib.Data.List.TakeWhile
import Pushdown.Proofs.Json.Number
import Pushdown.Proofs.Text.Splitting

set_option autoImplicit false

namespace Pushdown

namespace Json

/-! ### Fronts of a text -/

/-- The characters in which a value, or a blank behind it, can end. -/
def isEnding (c : Char) : Bool :=
  isSpace c || isDigit c || c = '"' || c = ']' || c = '\x7d' || c = 'e' || c = 'l'

/-- What is left of a text behind a front that ends in one of these characters. -/
def Takes (s rest : Text) : Prop := ∃ front c, s = front ++ c :: rest ∧ isEnding c = true

theorem Takes.last {c : Char} (hc : isEnding c = true) (rest : Text) : Takes (c :: rest) rest :=
  ⟨[], c, rfl, hc⟩

theorem Takes.behind {s rest : Text} (h : Takes s rest) (front : Text) :
    Takes (front ++ s) rest := by
  obtain ⟨inner, c, rfl, hc⟩ := h
  exact ⟨front ++ inner, c, (List.append_assoc ..).symm, hc⟩

theorem Takes.cons {s rest : Text} (h : Takes s rest) (c : Char) : Takes (c :: s) rest :=
  h.behind [c]

theorem Takes.trans {s middle rest : Text} (h : Takes s middle) (hrest : Takes middle rest) :
    Takes s rest := by
  obtain ⟨front, c, rfl, -⟩ := h
  have hfront := hrest.behind (front ++ [c])
  rwa [List.append_assoc, List.singleton_append] at hfront

/-- Blanks in front do not matter. -/
theorem Takes.of_skipSpace {s rest : Text} (h : Takes (skipSpace s) rest) : Takes s rest := by
  have hs : s.takeWhile isSpace ++ skipSpace s = s := List.takeWhile_append_dropWhile
  have hfront := h.behind (s.takeWhile isSpace)
  rwa [hs] at hfront

/-- A character behind blanks. -/
theorem takes_of_skipSpace_eq {c : Char} {s rest : Text} (hc : isEnding c = true)
    (h : skipSpace s = c :: rest) : Takes s rest :=
  Takes.of_skipSpace (h ▸ Takes.last hc rest)

/-- A fixed front that ends in one of the characters. -/
theorem takes_of_dropPrefix? {word s rest : Text} (hword : ∃ c ∈ word.getLast?, isEnding c = true)
    (h : Text.dropPrefix? word s = some rest) : Takes s rest := by
  obtain ⟨c, hlast, hc⟩ := hword
  obtain ⟨front, rfl⟩ := List.getLast?_eq_some_iff.1 hlast
  obtain rfl := Text.dropPrefix?_eq_some_iff.1 h
  exact ⟨front, c, by simp, hc⟩

/-! ### Digits -/

/-- What is left of a text behind digits, if there are any. -/
def Counts (s rest : Text) : Prop := ∃ ds, s = ds ++ rest ∧ ∀ c ∈ ds, isDigit c = true

theorem Counts.refl (s : Text) : Counts s s := ⟨[], rfl, by simp⟩

theorem Counts.cons {c : Char} (hc : isDigit c = true) {s rest : Text} (h : Counts s rest) :
    Counts (c :: s) rest := by
  obtain ⟨ds, rfl, hds⟩ := h
  refine ⟨c :: ds, rfl, fun d hd => ?_⟩
  rcases List.mem_cons.1 hd with rfl | hd
  · exact hc
  · exact hds d hd

theorem isEnding_of_isDigit {c : Char} (hc : isDigit c = true) : isEnding c = true := by
  simp [isEnding, hc]

/-- Digits behind a front make it longer. -/
theorem Takes.counts {s middle rest : Text} (h : Takes s middle) (hcounts : Counts middle rest) :
    Takes s rest := by
  obtain ⟨ds, rfl, hds⟩ := hcounts
  rcases List.eq_nil_or_concat ds with rfl | ⟨front, d, rfl⟩
  · exact h
  · rw [List.concat_eq_append] at *
    have hd : isDigit d = true := hds d (List.mem_append_right _ List.mem_cons_self)
    have hlast := (Takes.last (isEnding_of_isDigit hd) rest).behind front
    refine h.trans ?_
    rwa [List.append_assoc, List.singleton_append]

theorem takes_of_digit {c : Char} (hc : isDigit c = true) {s rest : Text} (h : Counts s rest) :
    Takes (c :: s) rest :=
  (Takes.last (isEnding_of_isDigit hc) s).counts h

theorem counts_dropWhile (s : Text) : Counts s (s.dropWhile isDigit) :=
  ⟨s.takeWhile isDigit, List.takeWhile_append_dropWhile.symm, fun _ hc =>
    List.mem_takeWhile_imp hc⟩

theorem counts_wholeDigits (n : Numeral) (s : Text) : Counts s (wholeDigits n s).2 := by
  induction s generalizing n with
  | nil => exact Counts.refl []
  | cons c s ih =>
      unfold wholeDigits
      split
      · next hc =>
          dsimp only
          split
          · exact (ih _).cons hc
          · exact (ih _).cons hc
      · exact Counts.refl _

theorem counts_fractionDigits (n : Numeral) (s : Text) : Counts s (fractionDigits n s).2 := by
  induction s generalizing n with
  | nil => exact Counts.refl []
  | cons c s ih =>
      unfold fractionDigits
      split
      · next hc =>
          dsimp only
          split
          · exact (ih _).cons hc
          · exact (ih _).cons hc
      · exact Counts.refl _

theorem counts_exponentDigits (n : Nat) (s : Text) : Counts s (exponentDigits n s).2 := by
  induction s generalizing n with
  | nil => exact Counts.refl []
  | cons c s ih =>
      unfold exponentDigits
      split
      · next hc =>
          dsimp only
          split
          · exact (counts_dropWhile s).cons hc
          · exact (ih _).cons hc
      · exact Counts.refl _

/-! ### Numbers -/

theorem takes_readExponent {negative : Bool} {n : Numeral} {s rest : Text} {b : Json}
    (h : readExponent negative n s = .ok (b, rest)) : Takes s rest := by
  unfold readExponent at h
  dsimp only at h
  split at h
  · exact absurd h (by simp)
  · next c more hsigned =>
      have hsign : ∃ sign, s = sign ++ c :: more := by
        split at hsigned
        · exact ⟨['+'], congrArg _ hsigned⟩
        · exact ⟨['-'], congrArg _ hsigned⟩
        · exact ⟨[], hsigned⟩
      obtain ⟨sign, rfl⟩ := hsign
      split at h
      · next hc =>
          have hcounts := counts_exponentDigits (digitValue c) more
          split at h
          · next hdigits =>
              rw [hdigits] at hcounts
              obtain ⟨j, -, hpair⟩ := Outcome.exists_of_map_eq_ok h
              exact (Prod.mk.inj hpair).2 ▸ (takes_of_digit hc hcounts).behind sign
          · next hdigits =>
              rw [hdigits] at hcounts
              rcases ite_eq_iff.1 h with ⟨-, h⟩ | ⟨-, h⟩
              · exact absurd h (by simp)
              · exact (Prod.mk.inj (Except.ok.inj h)).2 ▸ (takes_of_digit hc hcounts).behind sign
      · exact absurd h (by simp)

/-- What follows the digits of a number is an exponent or nothing. -/
theorem takes_readTail {negative : Bool} {n : Numeral} {s middle rest : Text} {b : Json}
    (hs : Takes s middle) (h : readTail negative n middle = .ok (b, rest)) : Takes s rest := by
  unfold readTail at h
  split at h
  · exact hs.trans ((takes_readExponent h).cons 'e')
  · exact hs.trans ((takes_readExponent h).cons 'E')
  · obtain ⟨j, -, hpair⟩ := Outcome.exists_of_map_eq_ok h
    exact (Prod.mk.inj hpair).2 ▸ hs

theorem takes_readFraction {negative : Bool} {n : Numeral} {s rest : Text} {b : Json}
    (h : readFraction negative n s = .ok (b, rest)) : Takes s rest := by
  unfold readFraction at h
  split at h
  · exact absurd h (by simp)
  · next c more =>
      split at h
      · next hc =>
          -- The first digit is taken whether it fits the significand or not.
          have hstep : ∃ next, fractionDigits { n with full := false } (c :: more) =
              fractionDigits next more := by
            rw [fractionDigits, if_pos hc]
            dsimp only
            split
            · exact ⟨_, rfl⟩
            · exact ⟨_, rfl⟩
          obtain ⟨next, hnext⟩ := hstep
          rw [hnext] at h
          exact takes_readTail (takes_of_digit hc (counts_fractionDigits next more)) h
      · exact absurd h (by simp)

theorem counts_leadingDigits {c : Char} {s rest : Text} {n : Numeral}
    (h : leadingDigits c s = some (n, rest)) : Counts s rest := by
  unfold leadingDigits at h
  split at h
  · split at h
    · split at h
      · exact absurd h (by simp)
      · exact (Prod.mk.inj (Option.some.inj h)).2 ▸ Counts.refl _
    · exact (Prod.mk.inj (Option.some.inj h)).2 ▸ Counts.refl _
  · have hwhole : wholeDigits ⟨digitValue c, 0, false⟩ s = (n, rest) := Option.some.inj h
    have hcounts := counts_wholeDigits ⟨digitValue c, 0, false⟩ s
    rwa [hwhole] at hcounts

theorem takes_readUnsigned {negative : Bool} {s rest : Text} {b : Json}
    (h : readUnsigned negative s = .ok (b, rest)) : Takes s rest := by
  cases s with
  | nil => exact absurd h (by simp [readUnsigned])
  | cons c s =>
      by_cases hc : isDigit c = true
      · rw [readUnsigned_cons hc] at h
        unfold readBehind at h
        split at h
        · exact absurd h (by simp)
        · next hleading =>
            exact (takes_of_digit hc (counts_leadingDigits hleading)).trans
              ((takes_readFraction h).cons '.')
        · next hleading =>
            exact (takes_of_digit hc (counts_leadingDigits hleading)).trans
              ((takes_readExponent h).cons 'e')
        · next hleading =>
            exact (takes_of_digit hc (counts_leadingDigits hleading)).trans
              ((takes_readExponent h).cons 'E')
        · next hleading =>
            have htakes := takes_of_digit hc (counts_leadingDigits hleading)
            split at h
            · obtain ⟨j, -, hpair⟩ := Outcome.exists_of_map_eq_ok h
              exact (Prod.mk.inj hpair).2 ▸ htakes
            · obtain ⟨j, -, hpair⟩ := Outcome.exists_of_map_eq_ok h
              exact (Prod.mk.inj hpair).2 ▸ htakes
      · exact absurd h (by simp [readUnsigned, hc])

theorem takes_readNumber {s rest : Text} {b : Json} (h : readNumber s = .ok (b, rest)) :
    Takes s rest := by
  unfold readNumber at h
  split at h
  · exact (takes_readUnsigned h).cons '-'
  · exact takes_readUnsigned h

/-! ### Strings -/

/-- A string takes its closing quote and nothing behind it. -/
theorem takes_stringFrom {skip : Nat} {s rest content : Text}
    (h : stringFrom skip s = .ok (content, rest)) : Takes s rest := by
  induction s generalizing skip content with
  | nil => exact absurd h (by simp [stringFrom])
  | cons c s ih =>
      -- Whatever stands in front, the rest of the string is read from the next character on.
      have hnext {k : Nat} {x : Char}
          (hmap : (stringFrom k s).map (fun r => (x :: r.1, r.2)) = .ok (content, rest)) :
          Takes (c :: s) rest := by
        obtain ⟨⟨more, last⟩, hmore, hpair⟩ := Outcome.exists_of_map_eq_ok hmap
        obtain ⟨-, rfl⟩ := Prod.mk.inj hpair
        exact (ih hmore).cons c
      cases skip with
      | succ skip => exact (ih h).cons c
      | zero =>
          unfold stringFrom at h
          split at h
          · next hquote =>
              subst hquote
              exact (Prod.mk.inj (Except.ok.inj h)).2 ▸ Takes.last (by decide) s
          split at h
          · exact absurd h (by simp)
          split at h
          · split at h
            · exact absurd h (by simp)
            · split at h
              · exact absurd h (by simp)
              · split at h
                · exact absurd h (by simp)
                · split at h
                  · split at h
                    · split at h
                      · split at h
                        · exact hnext h
                        · exact absurd h (by simp)
                      · exact absurd h (by simp)
                    · exact absurd h (by simp)
                  · exact hnext h
            · split at h
              · exact hnext h
              · exact absurd h (by simp)
          · exact hnext h

/-! ### Values -/

section

variable {item : Reader Json}
  (hitem : ∀ {s b rest}, item s = .ok (b, rest) → Takes s rest)

include hitem

theorem takes_readItems {fuel : Nat} {s rest : Text} {items : List Json}
    (h : readItems item fuel s = .ok (items, rest)) : Takes s rest := by
  induction fuel generalizing s items with
  | zero => exact absurd h (by simp [readItems])
  | succ fuel ih =>
      rw [readItems] at h
      split at h
      · exact absurd h (by simp)
      · next value middle hvalue =>
          have htakes : Takes s middle := hitem hvalue
          split at h
          · next hclose =>
              obtain ⟨-, rfl⟩ := Prod.mk.inj (Except.ok.inj h)
              exact htakes.trans (takes_of_skipSpace_eq (by decide) hclose)
          · next more hcomma =>
              obtain ⟨⟨others, last⟩, hmore, hpair⟩ := Outcome.exists_of_map_eq_ok h
              obtain ⟨-, rfl⟩ := Prod.mk.inj hpair
              have hothers : Takes (skipSpace middle) last := by
                rw [hcomma]
                exact (ih hmore).cons ','
              exact htakes.trans hothers.of_skipSpace
          · exact absurd h (by simp)

theorem takes_readMembers {fuel : Nat} {s rest : Text} {members : List (Text × Json)}
    (h : readMembers item fuel s = .ok (members, rest)) : Takes s rest := by
  induction fuel generalizing s members with
  | zero => exact absurd h (by simp [readMembers])
  | succ fuel ih =>
      rw [readMembers] at h
      refine Takes.of_skipSpace ?_
      split at h
      · next quoted hquote =>
          rw [hquote]
          refine Takes.cons ?_ '"'
          split at h
          · exact absurd h (by simp)
          · next name behind hname =>
              refine (takes_stringFrom hname).trans (Takes.of_skipSpace ?_)
              split at h
              · next valued hcolon =>
                  rw [hcolon]
                  refine Takes.cons ?_ ':'
                  split at h
                  · exact absurd h (by simp)
                  · next value middle hvalue =>
                      refine (hitem hvalue).trans ?_
                      split at h
                      · next hclose =>
                          obtain ⟨-, rfl⟩ := Prod.mk.inj (Except.ok.inj h)
                          exact takes_of_skipSpace_eq (by decide) hclose
                      · next more hcomma =>
                          obtain ⟨⟨others, last⟩, hmore, hpair⟩ := Outcome.exists_of_map_eq_ok h
                          obtain ⟨-, rfl⟩ := Prod.mk.inj hpair
                          refine Takes.of_skipSpace ?_
                          rw [hcomma]
                          exact (ih hmore).cons ','
                      · exact absurd h (by simp)
              · exact absurd h (by simp)
      · exact absurd h (by simp)

theorem takes_readArray {s rest : Text} {b : Json} (h : readArray item s = .ok (b, rest)) :
    Takes s rest := by
  unfold readArray at h
  split at h
  · next hclose =>
      obtain ⟨-, rfl⟩ := Prod.mk.inj (Except.ok.inj h)
      exact takes_of_skipSpace_eq (by decide) hclose
  · obtain ⟨⟨items, last⟩, hitems, hpair⟩ := Outcome.exists_of_map_eq_ok h
    obtain ⟨-, rfl⟩ := Prod.mk.inj hpair
    exact takes_readItems hitem hitems

theorem takes_readObject {s rest : Text} {b : Json} (h : readObject item s = .ok (b, rest)) :
    Takes s rest := by
  unfold readObject at h
  split at h
  · next hclose =>
      obtain ⟨-, rfl⟩ := Prod.mk.inj (Except.ok.inj h)
      exact takes_of_skipSpace_eq (by decide) hclose
  · obtain ⟨⟨members, last⟩, hmembers, hpair⟩ := Outcome.exists_of_map_eq_ok h
    obtain ⟨-, rfl⟩ := Prod.mk.inj hpair
    exact takes_readMembers hitem hmembers

end

theorem takes_readWord {word s rest : Text} {value b : Json}
    (hword : ∃ c ∈ word.getLast?, isEnding c = true)
    (h : readWord word value s = .ok (b, rest)) : Takes s rest := by
  unfold readWord at h
  split at h
  · next hdrop =>
      exact (Prod.mk.inj (Except.ok.inj h)).2 ▸ takes_of_dropPrefix? hword hdrop
  · exact absurd h (by simp)

/-- A value that is read takes a front that ends as a value does, given that the values inside it
do. -/
theorem takes_readValue_step {depth : Nat} {s rest : Text} {b : Json}
    (hinner : ∀ lower, depth = lower + 1 → ∀ {s b rest}, readValue lower s = .ok (b, rest) →
      Takes s rest)
    (h : readValue depth s = .ok (b, rest)) : Takes s rest := by
  refine Takes.of_skipSpace ?_
  unfold readValue at h
  split at h
  · exact absurd h (by simp)
  next c more hs =>
  rw [hs]
  split at h
  · exact (takes_readWord ⟨'l', rfl, by decide⟩ h).cons c
  split at h
  · exact (takes_readWord ⟨'e', rfl, by decide⟩ h).cons c
  split at h
  · exact (takes_readWord ⟨'e', rfl, by decide⟩ h).cons c
  split at h
  · obtain ⟨⟨content, last⟩, hstring, hpair⟩ := Outcome.exists_of_map_eq_ok h
    obtain ⟨-, rfl⟩ := Prod.mk.inj hpair
    exact (takes_stringFrom hstring).cons c
  split at h
  · split at h
    · exact absurd h (by simp)
    · exact (takes_readArray (hinner _ rfl) h).cons c
  split at h
  · split at h
    · exact absurd h (by simp)
    · exact (takes_readObject (hinner _ rfl) h).cons c
  · exact takes_readNumber h

/-- A value that is read takes a front that ends as a value does. -/
theorem takes_readValue {depth : Nat} {s rest : Text} {b : Json}
    (h : readValue depth s = .ok (b, rest)) : Takes s rest := by
  induction depth generalizing s b rest with
  | zero => exact takes_readValue_step (fun lower hlower => absurd hlower (by simp)) h
  | succ depth ih =>
      refine takes_readValue_step (fun lower hlower => ?_) h
      obtain rfl := Nat.succ.inj hlower
      exact fun hread => ih hread

/-- **The last character of a text that is read as a value.** -/
theorem isEnding_of_parse {s : Text} {b : Json} (h : parse s = .ok b) :
    ∃ c ∈ s.getLast?, isEnding c = true := by
  unfold parse at h
  split at h
  · exact absurd h (by simp)
  · next value rest hvalue =>
      obtain ⟨front, c, rfl, hc⟩ := takes_readValue hvalue
      split at h
      · next hblank =>
          -- Behind the value there are blanks only.
          have hspaces : ∀ d ∈ rest, isSpace d = true := by
            rw [List.isEmpty_iff, skipSpace, List.dropWhile_eq_nil_iff] at hblank
            exact hblank
          rcases List.eq_nil_or_concat rest with rfl | ⟨blanks, d, rfl⟩
          · exact ⟨c, List.getLast?_concat, hc⟩
          · rw [List.concat_eq_append] at *
            have hd : isSpace d = true := hspaces d (List.mem_append_right _ List.mem_cons_self)
            refine ⟨d, ?_, by simp [isEnding, hd]⟩
            rw [← List.cons_append, ← List.append_assoc]
            exact List.getLast?_concat
      · exact absurd h (by simp)

end Json

end Pushdown
