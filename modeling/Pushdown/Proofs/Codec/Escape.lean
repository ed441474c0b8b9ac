/-
**Escapes that change no meaning.**

A reader of escapes takes the same octets from a character and from its escape.  So a text that is
escaped once more stands for what it stood for, as long as the characters stay that mean something
to the reader: the percent sign and the hexadecimal digits, which may be an escape already, and in a
form also the separators and the plus sign.

Main definitions:

* `Percent.Escapes` — a text with further characters escaped;
* `Form.isMark` — the characters that mean something in a form;
* `Form.SparesMarks` — a way to write characters that escapes none of them.

Main results:

* `Percent.Escapes.octets_eq` — further escapes leave the octets as they are;
* `Form.decode_flatMap` — and a name or value of a form;
* `Form.readPairs_flatMap` — **and the pairs of a form**.
-/

import Pushdown.Proofs.Codec.Form
import Pushdown.Proofs.Codec.Order

set_option autoImplicit false

namespace Pushdown

namespace Percent

/-- The second text is the first one with some characters escaped, none of which could belong to an
escape. -/
inductive Escapes : Text → Text → Prop
  | nil : Escapes [] []
  | keep {s t : Text} (c : Char) : Escapes s t → Escapes (c :: s) (c :: t)
  | escape {s t : Text} {c : Char} (hpercent : c ≠ '%') (hdigit : Text.hexValue? c = none) :
      Escapes s t → Escapes (c :: s) (escapeChar c ++ t)

theorem exists_escapeChar (c : Char) : ∃ rest, escapeChar c = '%' :: rest := by
  obtain ⟨b, bytes, hbytes⟩ := List.exists_cons_of_ne_nil (Utf8.encodeChar_ne_nil c)
  exact ⟨_, by rw [escapeChar, hbytes, List.flatMap_cons]; rfl⟩

/-- A digit was not escaped. -/
theorem Escapes.of_digit_left {c : Char} {s t : Text} (h : Escapes (c :: s) t)
    (hc : (Text.hexValue? c).isSome = true) : ∃ t', t = c :: t' ∧ Escapes s t' := by
  cases h with
  | keep _ h => exact ⟨_, rfl, h⟩
  | escape _ hdigit _ => exact absurd hc (by simp [hdigit])

/-- A digit does not start an escape. -/
theorem Escapes.of_digit_right {c : Char} {s t : Text} (h : Escapes s (c :: t))
    (hc : (Text.hexValue? c).isSome = true) : ∃ s', s = c :: s' ∧ Escapes s' t := by
  generalize hct : c :: t = ct at h
  cases h with
  | nil => exact absurd hct (by simp)
  | keep d h =>
      obtain ⟨rfl, rfl⟩ := List.cons.inj hct
      exact ⟨_, rfl, h⟩
  | @escape _ _ d _ _ _ =>
      obtain ⟨rest, hrest⟩ := exists_escapeChar d
      rw [hrest, List.cons_append] at hct
      rw [(List.cons.inj hct).1] at hc
      exact absurd hc (by decide)

theorem isSome_of_octet? {a b : Char} {octet : Nat} (h : octet? a b = some octet) :
    (Text.hexValue? a).isSome = true ∧ (Text.hexValue? b).isSome = true := by
  unfold octet? at h
  split at h
  · next ha hb => simp [ha, hb]
  · exact absurd h (by simp)

theorem ne_percent_of_isSome {c : Char} (hc : (Text.hexValue? c).isSome = true) : c ≠ '%' := by
  rintro rfl
  exact absurd hc (by decide)

/-- A percent sign that no two digits follow stands for itself. -/
theorem octets_percent_cons {rest : Text}
    (h : ∀ a b more, rest = a :: b :: more → octet? a b = none) :
    octets ('%' :: rest) = Utf8.encodeChar '%' ++ octets rest := by
  match rest with
  | [] => simp [octets]
  | [a] => simp [octets]
  | a :: b :: more => simp [octets, h a b more rfl]

/-- **Further escapes leave the octets as they are.** -/
theorem Escapes.octets_eq {s t : Text} (h : Escapes s t) : octets t = octets s := by
  induction h with
  | nil => rfl
  | @escape s t c hpercent _ _ ih =>
      rw [escapeChar, octets_flatMap_escapeOctet_append (encodeChar_lt c), ih,
        octets_cons_of_ne hpercent]
  | @keep s t c h ih =>
      by_cases hc : c = '%'
      · subst hc
        by_cases hs : ∃ a b more octet, s = a :: b :: more ∧ octet? a b = some octet
        · -- The two digits stand on both sides, and what follows them has the same octets.
          obtain ⟨a, b, more, octet, rfl, hoctet⟩ := hs
          obtain ⟨ha, hb⟩ := isSome_of_octet? hoctet
          obtain ⟨t, rfl, ht⟩ := h.of_digit_left ha
          obtain ⟨t, rfl, -⟩ := ht.of_digit_left hb
          rw [octets_cons_of_ne (ne_percent_of_isSome ha),
            octets_cons_of_ne (ne_percent_of_isSome hb),
            octets_cons_of_ne (ne_percent_of_isSome ha),
            octets_cons_of_ne (ne_percent_of_isSome hb)] at ih
          have hmore := List.append_cancel_left (List.append_cancel_left ih)
          simp [octets, hoctet, hmore]
        · rw [octets_percent_cons, octets_percent_cons, ih]
          · rintro a b more rfl
            exact Option.eq_none_iff_forall_ne_some.2 fun octet hoctet =>
              hs ⟨a, b, more, octet, rfl, hoctet⟩
          · rintro a b more rfl
            refine Option.eq_none_iff_forall_ne_some.2 fun octet hoctet => hs ?_
            obtain ⟨ha, hb⟩ := isSome_of_octet? hoctet
            obtain ⟨s, rfl, hs'⟩ := h.of_digit_right ha
            obtain ⟨s, rfl, -⟩ := hs'.of_digit_right hb
            exact ⟨a, b, s, octet, rfl, hoctet⟩
      · rw [octets_cons_of_ne hc, octets_cons_of_ne hc, ih]

end Percent

namespace Form

/-- The characters that mean something in a form. -/
def isMark (c : Char) : Bool := (Text.hexValue? c).isSome || "%+&=".toList.contains c

/-- A way to write characters: as they are, or escaped if they are no marks. -/
def SparesMarks (write : Char → Text) : Prop :=
  ∀ c, write c = [c] ∨ write c = Percent.escapeChar c ∧ isMark c = false

theorem not_isMark_iff {c : Char} :
    isMark c = false ↔ Text.hexValue? c = none ∧ c ≠ '%' ∧ c ≠ '+' ∧ c ≠ '&' ∧ c ≠ '=' := by
  simp [isMark]

/-- A mark is printable. -/
theorem isMark_bounds {c : Char} (h : isMark c = true) : 0x20 ≤ c.toNat ∧ c.toNat ≤ 0x7E := by
  rcases Bool.or_eq_true_iff.1 h with h | h
  · by_cases hdigit : '0' ≤ c ∧ c ≤ '9'
    · have hlow : 48 ≤ c.toNat := hdigit.1
      have hhigh : c.toNat ≤ 57 := hdigit.2
      omega
    by_cases hsmall : 'a' ≤ c ∧ c ≤ 'f'
    · have hlow : 97 ≤ c.toNat := hsmall.1
      have hhigh : c.toNat ≤ 102 := hsmall.2
      omega
    by_cases hcapital : 'A' ≤ c ∧ c ≤ 'F'
    · have hlow : 65 ≤ c.toNat := hcapital.1
      have hhigh : c.toNat ≤ 70 := hcapital.2
      omega
    rw [Text.hexValue?, if_neg hdigit, if_neg hsmall, if_neg hcapital] at h
    exact absurd h (by simp)
  · have hall : ∀ d ∈ "%+&=".toList, 0x20 ≤ d.toNat ∧ d.toNat ≤ 0x7E := by decide
    exact hall c (List.contains_iff_mem.1 h)

namespace SparesMarks

variable {write : Char → Text}

theorem eq_singleton (h : SparesMarks write) {c : Char} (hc : isMark c = true) : write c = [c] := by
  rcases h c with hself | ⟨-, hmark⟩
  · exact hself
  · exact absurd (hc.symm.trans hmark) (by simp)

theorem ne_nil (h : SparesMarks write) (c : Char) : write c ≠ [] := by
  rcases h c with hself | ⟨hescape, -⟩
  · simp [hself]
  · obtain ⟨rest, hrest⟩ := Percent.exists_escapeChar c
    simp [hescape, hrest]

/-- No character but a separator brings one in. -/
theorem not_mem (h : SparesMarks write) {c d : Char} (hne : c ≠ d)
    (hc : Percent.isWritten c = false) : c ∉ write d := by
  rcases h d with hself | ⟨hescape, -⟩
  · simpa [hself] using hne
  · rw [hescape]
    exact Percent.not_mem_escapeChar hc d

end SparesMarks

section

variable {write : Char → Text} (h : SparesMarks write)

include h

theorem escapes_flatMap (s : Text) : Percent.Escapes s (s.flatMap write) := by
  induction s with
  | nil => exact .nil
  | cons c s ih =>
      rw [List.flatMap_cons]
      rcases h c with hself | ⟨hescape, hmark⟩
      · rw [hself]
        exact .keep c ih
      · obtain ⟨hdigit, hpercent, -⟩ := not_isMark_iff.1 hmark
        rw [hescape]
        exact .escape hpercent hdigit ih

/-- Further escapes leave the octets as they are. -/
theorem octets_flatMap (s : Text) : Percent.octets (s.flatMap write) = Percent.octets s :=
  (escapes_flatMap h s).octets_eq

/-- Further escapes do not change a name or value. -/
theorem decode_flatMap (s : Text) : decode (s.flatMap write) = decode s := by
  -- A plus sign stands for a space that is not escaped, a space may be escaped.
  have hescapes : Percent.Escapes (s.map fun c => if c = '+' then ' ' else c)
      ((s.flatMap write).map fun c => if c = '+' then ' ' else c) := by
    induction s with
    | nil => exact .nil
    | cons c s ih =>
        rw [List.flatMap_cons, List.map_append, List.map_cons]
        rcases h c with hself | ⟨hescape, hmark⟩
        · rw [hself]
          exact .keep _ ih
        · obtain ⟨hdigit, hpercent, hplus, -⟩ := not_isMark_iff.1 hmark
          rw [hescape, map_plus_of_not_mem (Percent.not_mem_escapeChar (by decide) c), if_neg hplus]
          exact .escape hpercent hdigit ih
  rw [decode, decode, hescapes.octets_eq]

theorem isEmpty_flatMap (s : Text) : (s.flatMap write).isEmpty = s.isEmpty := by
  cases s with
  | nil => rfl
  | cons c s => simp [h.ne_nil c]

/-- Further escapes do not change a pair. -/
theorem readPair_flatMap (piece : Text) : readPair (piece.flatMap write) = readPair piece := by
  rw [readPair, Text.splitFirst?_flatMap (h.eq_singleton (by decide)) fun c hc =>
    h.not_mem (Ne.symm hc) (by decide), readPair]
  cases Text.splitFirst? '=' piece with
  | none => simp only [Option.map_none, decode_flatMap h]
  | some halves => simp only [Option.map_some, decode_flatMap h]

/-- **Further escapes do not change the pairs of a form.** -/
theorem readPairs_flatMap (s : Text) : readPairs (s.flatMap write) = readPairs s := by
  have hpieces : Text.splitAll '&' (s.flatMap write) =
      (Text.splitAll '&' s).map fun piece => piece.flatMap write :=
    Text.splitAll_flatMap (h.eq_singleton (by decide)) (fun c hc =>
      h.not_mem (Ne.symm hc) (by decide)) s
  rw [readPairs, hpieces, List.filter_map, List.map_map, readPairs]
  simp only [Function.comp_def, isEmpty_flatMap h, readPair_flatMap h]

end

end Form

end Pushdown
