/-
**Cutting a text where it was put together.**

A virtual table is written by putting pieces together around separators and read by cutting at the
separators again.  This module relates the two: what a cut does to a text that is the concatenation
of two others, what trimming does to a text with a mark in its middle, and when a fixed text can
occur in a concatenation.

Main results:

* `Text.takeWhile_append_of_head` — a run of characters in front of a rest;
* `Text.splitAll_append_cons` — cutting at every separator respects concatenation at a separator;
* `Text.splitAll_flatMap`, `Text.splitFirst?_flatMap` — cutting a text whose characters were written
  anew;
* `Text.splitWhere_joinWith` — cutting undoes joining;
* `Text.isInfix_iff` — the search for a fixed text is the infix relation;
* `Text.infix_append_cons` — a text without the mark occurs on one side of it;
* `Text.trim_append_cons` — trimming a text with a mark in its middle trims the two sides;
* `Text.trim_eq_nil_iff` — trimming leaves nothing exactly of a blank text.
-/

import Pushdown.Text.Blank

set_option autoImplicit false

namespace Pushdown

namespace Text

/-! ### Characters of a text -/

section

variable (p : Char → Prop) [DecidablePred p]

/-- A property of the characters of a text is decided along the text. -/
instance (priority := high) (s : List Char) : Decidable (∀ c ∈ s, p c) := List.decidableBAll p s

/-- A property of the first or last character of a text is decided on that character. -/
instance (priority := high) (o : Option Char) : Decidable (∀ c ∈ o, p c) :=
  Option.decidableForallMem o

end

/-! ### Runs of characters in front of a rest -/

/-- A run of characters ends where a rest starts whose first character does not belong to it. -/
theorem takeWhile_append_of_head {p : Char → Bool} {r : Text} (hr : ∀ c ∈ r.head?, p c = false)
    (a : Text) :
    (a ++ r).takeWhile p = a.takeWhile p ∧ (a ++ r).dropWhile p = a.dropWhile p ++ r := by
  induction a with
  | nil =>
      cases r with
      | nil => exact ⟨rfl, rfl⟩
      | cons c r => simp [hr c rfl]
  | cons c a ih =>
      by_cases hc : p c = true
      · simp [hc, ih.1, ih.2]
      · simp [hc]

/-! ### Cutting off a fixed front -/

theorem dropPrefix?_eq_some_iff {lead s rest : Text} :
    dropPrefix? lead s = some rest ↔ lead ++ rest = s := by
  induction lead generalizing s with
  | nil => simp [dropPrefix?, eq_comm]
  | cons p lead ih =>
      cases s with
      | nil => simp [dropPrefix?]
      | cons c s =>
          by_cases hc : p = c
          · simp [dropPrefix?, hc, ih]
          · simp [dropPrefix?, hc]

theorem dropPrefix?_eq_none_iff {lead s : Text} : dropPrefix? lead s = none ↔ ¬ lead <+: s := by
  simp only [Option.eq_none_iff_forall_ne_some, ne_eq, dropPrefix?_eq_some_iff, List.IsPrefix,
    not_exists]

/-! ### Cutting at every separator -/

theorem splitWhere_ne_nil (isSep : Char → Bool) (s : Text) : splitWhere isSep s ≠ [] := by
  induction s with
  | nil => simp [splitWhere]
  | cons c rest ih =>
      unfold splitWhere
      split
      · simp
      · split <;> simp

/-- The pieces of two texts with a separator between are the pieces of the one and of the other. -/
theorem splitWhere_append_cons {isSep : Char → Bool} {c : Char} (hc : isSep c = true)
    (a b : Text) :
    splitWhere isSep (a ++ c :: b) = splitWhere isSep a ++ splitWhere isSep b := by
  induction a with
  | nil => simp [splitWhere, hc]
  | cons d rest ih =>
      by_cases hd : isSep d = true
      · simp only [List.cons_append, splitWhere, hd, if_true, ih]
      · simp only [List.cons_append, splitWhere, hd, if_false, Bool.false_eq_true, ih]
        cases hrest : splitWhere isSep rest with
        | nil => exact absurd hrest (splitWhere_ne_nil isSep rest)
        | cons piece pieces => simp

/-- A text without a separator is its own only piece. -/
theorem splitWhere_of_forall_not {isSep : Char → Bool} {s : Text}
    (h : ∀ c ∈ s, isSep c = false) : splitWhere isSep s = [s] := by
  induction s with
  | nil => rfl
  | cons c rest ih =>
      have hrest : ∀ d ∈ rest, isSep d = false := fun d hd => h d (List.mem_cons_of_mem _ hd)
      simp [splitWhere, h c List.mem_cons_self, ih hrest]

theorem splitAll_append_cons (sep : Char) (a b : Text) :
    splitAll sep (a ++ sep :: b) = splitAll sep a ++ splitAll sep b :=
  splitWhere_append_cons (by simp) a b

theorem splitAll_of_not_mem {sep : Char} {s : Text} (h : sep ∉ s) : splitAll sep s = [s] := by
  refine splitWhere_of_forall_not ?_
  intro c hc
  simp only [decide_eq_false_iff_not]
  rintro rfl
  exact h hc

/-! ### Cutting a text that is written anew -/

/-- A text without separators in front stays with the first piece. -/
theorem splitAll_append_of_not_mem {sep : Char} {a : Text} (ha : sep ∉ a) (b : Text) :
    splitAll sep (a ++ b) = (splitAll sep b).modifyHead (a ++ ·) := by
  induction a with
  | nil => cases h : splitAll sep b <;> simp [h]
  | cons c a ih =>
      obtain ⟨hc, ha⟩ := not_or.1 (mt List.mem_cons.2 ha)
      have hrest := ih ha
      rw [splitAll] at hrest
      rw [List.cons_append, splitAll, splitWhere, hrest, if_neg (by simpa using Ne.symm hc),
        splitAll]
      cases h : splitWhere (fun d => decide (d = sep)) b with
      | nil => exact absurd h (splitWhere_ne_nil _ b)
      | cons piece pieces => rfl

/-- A text whose separator stays and is not brought in anew is cut as before. -/
theorem splitAll_flatMap {sep : Char} {write : Char → Text} (hsep : write sep = [sep])
    (hother : ∀ c, c ≠ sep → sep ∉ write c) (s : Text) :
    splitAll sep (s.flatMap write) = (splitAll sep s).map fun piece => piece.flatMap write := by
  induction s with
  | nil => rfl
  | cons c s ih =>
      rw [List.flatMap_cons]
      by_cases hc : c = sep
      · subst hc
        have hwritten := splitAll_append_cons c [] (s.flatMap write)
        have hcut := splitAll_append_cons c [] s
        rw [List.nil_append] at hwritten hcut
        rw [hsep, List.singleton_append, hwritten, ih, hcut, List.map_append]
        rfl
      · have hcut : splitAll sep (c :: s) = (splitAll sep s).modifyHead ([c] ++ ·) :=
          splitAll_append_of_not_mem (a := [c]) (by simpa using Ne.symm hc) s
        rw [splitAll_append_of_not_mem (hother c hc), ih, hcut]
        cases splitAll sep s with
        | nil => rfl
        | cons piece pieces => simp

/-- A text whose separator stays and is not brought in anew is cut in the same place. -/
theorem splitFirst?_flatMap {sep : Char} {write : Char → Text} (hsep : write sep = [sep])
    (hother : ∀ c, c ≠ sep → sep ∉ write c) {s : Text} :
    splitFirst? sep (s.flatMap write) = (splitFirst? sep s).map fun halves =>
      (halves.1.flatMap write, halves.2.flatMap write) := by
  have hfront {front : Text} (h : sep ∉ front) : sep ∉ front.flatMap write := by
    intro hm
    obtain ⟨c, hc, hsepc⟩ := List.mem_flatMap.1 hm
    refine hother c ?_ hsepc
    rintro rfl
    exact h hc
  cases h : splitFirst? sep s with
  | none => exact splitFirst?_eq_none_iff.2 (hfront (splitFirst?_eq_none_iff.1 h))
  | some halves =>
      obtain ⟨rfl, hnot⟩ := eq_append_of_splitFirst? h
      rw [List.flatMap_append, List.flatMap_cons, hsep, List.singleton_append,
        splitFirst?_append (hfront hnot)]
      rfl

/-! ### Joining -/

theorem joinWith_cons (sep piece : Text) {pieces : List Text} (h : pieces ≠ []) :
    joinWith sep (piece :: pieces) = piece ++ sep ++ joinWith sep pieces := by
  cases pieces with
  | nil => exact absurd rfl h
  | cons p ps => rfl

/-- A character that is in none of two texts is not in the text with another between them. -/
theorem not_mem_append_cons {c d : Char} {a b : Text} (ha : c ∉ a) (h : c ≠ d) (hb : c ∉ b) :
    c ∉ a ++ d :: b := by
  rw [List.mem_append, List.mem_cons, not_or, not_or]
  exact ⟨ha, h, hb⟩

/-- A character of a joined text is one of a piece or of the separator. -/
theorem mem_joinWith {sep : Text} {pieces : List Text} {c : Char} (h : c ∈ joinWith sep pieces) :
    c ∈ sep ∨ ∃ piece ∈ pieces, c ∈ piece := by
  induction pieces with
  | nil => simp [joinWith] at h
  | cons piece pieces ih =>
      by_cases hnil : pieces = []
      · subst hnil
        exact Or.inr ⟨piece, List.mem_cons_self, h⟩
      · rw [joinWith_cons sep piece hnil, List.append_assoc] at h
        rcases List.mem_append.1 h with h | h
        · exact Or.inr ⟨piece, List.mem_cons_self, h⟩
        · rcases List.mem_append.1 h with h | h
          · exact Or.inl h
          · rcases ih h with h | ⟨q, hq, hc⟩
            · exact Or.inl h
            · exact Or.inr ⟨q, List.mem_cons_of_mem _ hq, hc⟩

/-- Pieces without a separator are what the text that joins them is cut into. -/
theorem splitWhere_joinWith {isSep : Char → Bool} {c : Char} (hc : isSep c = true)
    {pieces : List Text} (hne : pieces ≠ [])
    (h : ∀ piece ∈ pieces, ∀ d ∈ piece, isSep d = false) :
    splitWhere isSep (joinWith [c] pieces) = pieces := by
  induction pieces with
  | nil => exact absurd rfl hne
  | cons piece pieces ih =>
      have hpiece := splitWhere_of_forall_not (h piece List.mem_cons_self)
      by_cases hnil : pieces = []
      · subst hnil
        exact hpiece
      · rw [joinWith_cons _ _ hnil, List.append_assoc, List.singleton_append,
          splitWhere_append_cons hc, hpiece, ih hnil fun p hp => h p (List.mem_cons_of_mem _ hp),
          List.singleton_append]

/-- Pieces with a separator in front of each are the joined text behind a separator. -/
theorem flatMap_cons_eq_joinWith (c : Char) {pieces : List Text} (hne : pieces ≠ []) :
    (pieces.flatMap fun piece => c :: piece) = c :: joinWith [c] pieces := by
  induction pieces with
  | nil => exact absurd rfl hne
  | cons piece pieces ih =>
      by_cases hnil : pieces = []
      · subst hnil
        simp [joinWith]
      · rw [List.flatMap_cons, ih hnil, joinWith_cons _ _ hnil]
        simp

/-! ### Occurrences of a fixed text -/

/-- The search for a fixed text is the infix relation. -/
theorem isInfix_iff {needle s : Text} : isInfix needle s = true ↔ needle <:+: s := by
  induction s with
  | nil => simp [isInfix]
  | cons c rest ih =>
      rw [isInfix, Bool.or_eq_true, ih, List.isPrefixOf_iff_prefix, List.infix_cons_iff]

theorem isInfix_eq_false_iff {needle s : Text} : isInfix needle s = false ↔ ¬ needle <:+: s := by
  rw [← isInfix_iff, Bool.not_eq_true]

/-- A text without the mark that starts a text with a mark starts in front of the mark. -/
theorem prefix_append_cons {needle a b : Text} {c : Char} (hc : c ∉ needle)
    (h : needle <+: a ++ c :: b) : needle <+: a := by
  induction a generalizing needle with
  | nil =>
      cases needle with
      | nil => exact List.nil_prefix
      | cons n needle =>
          have hn : n = c := (List.cons_prefix_cons.1 h).1
          exact absurd (hn ▸ List.mem_cons_self) hc
  | cons d a ih =>
      cases needle with
      | nil => exact List.nil_prefix
      | cons n needle =>
          obtain ⟨rfl, htail⟩ := List.cons_prefix_cons.1 h
          have hmem : c ∉ needle := fun hm => hc (List.mem_cons_of_mem _ hm)
          exact List.cons_prefix_cons.2 ⟨rfl, ih hmem htail⟩

/-- A text without the mark occurs on one side of the mark. -/
theorem infix_append_cons {needle a b : Text} {c : Char} (hc : c ∉ needle)
    (h : needle <:+: a ++ c :: b) : needle <:+: a ∨ needle <:+: b := by
  induction a with
  | nil =>
      rcases List.infix_cons_iff.1 h with hp | hi
      · have hnil : needle = [] := List.prefix_nil.1 (prefix_append_cons (a := []) hc hp)
        exact Or.inl (hnil ▸ List.nil_infix)
      · exact Or.inr hi
  | cons d a ih =>
      rcases List.infix_cons_iff.1 h with hp | hi
      · exact Or.inl (prefix_append_cons (a := d :: a) hc hp).isInfix
      · rcases ih hi with ha | hb
        · exact Or.inl (List.infix_cons ha)
        · exact Or.inr hb

/-! ### Replacing one character -/

theorem replaceChar_append (c : Char) (replacement a b : Text) :
    replaceChar c replacement (a ++ b) =
      replaceChar c replacement a ++ replaceChar c replacement b := by
  simp [replaceChar]

/-- A text that shares no character with the replacement and lacks the replaced character starts
the new text only if it starts the old one. -/
theorem prefix_of_prefix_replaceChar {needle s replacement : Text} {c : Char}
    (hne : replacement ≠ []) (hr : ∀ d ∈ replacement, d ∉ needle)
    (h : needle <+: replaceChar c replacement s) : needle <+: s := by
  induction s generalizing needle with
  | nil => exact h
  | cons d s ih =>
      cases needle with
      | nil => exact List.nil_prefix
      | cons n needle =>
          by_cases hd : d = c
          · obtain ⟨x, xs, hx⟩ := List.exists_cons_of_ne_nil hne
            have hn : n = x := by
              simp only [replaceChar, List.flatMap_cons, hd, if_true, hx, List.cons_append] at h
              exact (List.cons_prefix_cons.1 h).1
            exact absurd (hn ▸ List.mem_cons_self) (hr x (hx ▸ List.mem_cons_self))
          · have h' : n :: needle <+: d :: replaceChar c replacement s := by
              simpa [replaceChar, hd] using h
            obtain ⟨rfl, htail⟩ := List.cons_prefix_cons.1 h'
            have hr' : ∀ e ∈ replacement, e ∉ needle := fun e he hm =>
              hr e he (List.mem_cons_of_mem _ hm)
            exact List.cons_prefix_cons.2 ⟨rfl, ih hr' htail⟩

/-- A text does not reach into characters that it does not have. -/
theorem infix_of_infix_append {needle a b : Text} (ha : ∀ d ∈ a, d ∉ needle)
    (h : needle <:+: a ++ b) : needle <:+: b := by
  induction a with
  | nil => exact h
  | cons d a ih =>
      have ha' : ∀ e ∈ a, e ∉ needle := fun e he => ha e (List.mem_cons_of_mem _ he)
      rcases List.infix_cons_iff.1 h with hp | hi
      · cases needle with
        | nil => exact List.nil_infix
        | cons n needle =>
            have hn : n = d := (List.cons_prefix_cons.1 hp).1
            exact absurd (hn ▸ List.mem_cons_self) (ha d List.mem_cons_self)
      · exact ih ha' hi

/-- Replacing a character brings in no occurrence of a text that shares no character with the
replacement. -/
theorem infix_of_infix_replaceChar {needle s replacement : Text} {c : Char}
    (hne : replacement ≠ []) (hr : ∀ d ∈ replacement, d ∉ needle)
    (h : needle <:+: replaceChar c replacement s) : needle <:+: s := by
  induction s with
  | nil => exact h
  | cons d s ih =>
      by_cases hd : d = c
      · have hcons : replaceChar c replacement (d :: s) =
            replacement ++ replaceChar c replacement s := by simp [replaceChar, hd]
        exact List.infix_cons (ih (infix_of_infix_append hr (hcons ▸ h)))
      · have hcons : replaceChar c replacement (d :: s) = d :: replaceChar c replacement s := by
          simp [replaceChar, hd]
        rcases List.infix_cons_iff.1 (hcons ▸ h) with hp | hi
        · exact (prefix_of_prefix_replaceChar hne hr (hcons ▸ hp)).isInfix
        · exact List.infix_cons (ih hi)

/-- A text without the replaced character stays. -/
theorem replaceChar_of_not_mem {s replacement : Text} {c : Char} (hc : c ∉ s) :
    replaceChar c replacement s = s := by
  induction s with
  | nil => rfl
  | cons d s ih =>
      obtain ⟨hd, hs⟩ := not_or.1 (mt List.mem_cons.2 hc)
      have hrest := ih hs
      rw [replaceChar] at hrest
      rw [replaceChar, List.flatMap_cons, if_neg (Ne.symm hd), hrest, List.singleton_append]

theorem trimLeft_append_cons {c : Char} (hc : isBlank c = false) (a b : Text) :
    trimLeft (a ++ c :: b) = trimLeft a ++ c :: b := by
  induction a with
  | nil => simp [trimLeft, hc]
  | cons d a ih =>
      by_cases hd : isBlank d = true
      · simpa [trimLeft, hd] using ih
      · simp [trimLeft, hd]

theorem trimRight_append_cons {c : Char} (hc : isBlank c = false) (a b : Text) :
    trimRight (a ++ c :: b) = a ++ c :: trimRight b := by
  have h := trimLeft_append_cons hc b.reverse a.reverse
  unfold trimLeft at h
  simp [trimRight, h]

/-- Trimming a text with a mark in its middle trims the two sides. -/
theorem trim_append_cons {c : Char} (hc : isBlank c = false) (a b : Text) :
    trim (a ++ c :: b) = trimLeft a ++ c :: trimRight b := by
  rw [trim, trimLeft_append_cons hc, trimRight_append_cons hc]

/-- What trimming takes from the end is blank. -/
theorem eq_trimRight_append (s : Text) :
    ∃ w : Text, (∀ c ∈ w, isBlank c = true) ∧ s = trimRight s ++ w := by
  refine ⟨(s.reverse.takeWhile isBlank).reverse, ?_, ?_⟩
  · intro c hc
    exact List.all_eq_true.1 List.all_takeWhile c (List.mem_reverse.1 hc)
  · rw [trimRight, ← List.reverse_append, List.takeWhile_append_dropWhile, List.reverse_reverse]

theorem trimRight_append_blanks {s w : Text} (hw : ∀ c ∈ w, isBlank c = true) :
    trimRight (s ++ w) = trimRight s := by
  have hw' : ∀ c ∈ w.reverse, isBlank c = true := fun c hc => hw c (List.mem_reverse.1 hc)
  rw [trimRight, List.reverse_append, List.dropWhile_append_of_pos hw', trimRight]

theorem getLast?_trimRight (s : Text) : ∀ c ∈ (trimRight s).getLast?, isBlank c = false := by
  intro c hc
  rw [trimRight, List.getLast?_reverse] at hc
  have h := List.head?_dropWhile_not isBlank s.reverse
  rw [Option.mem_def.1 hc] at h
  simpa using h

/-- A trimmed text does not start with a blank. -/
theorem head?_trim (s : Text) : ∀ c ∈ (trim s).head?, isBlank c = false := by
  intro c hc
  have hr : trim s <+: trimLeft s := by
    have h := List.dropWhile_suffix (l := (trimLeft s).reverse) isBlank
    simpa [trim, trimRight] using List.reverse_prefix.2 h
  obtain ⟨rest, hrest⟩ := hr
  have hhead : (trimLeft s).head? = some c := by
    rw [← hrest, List.head?_append, Option.mem_def.1 hc, Option.some_or]
  have h := List.head?_dropWhile_not isBlank s
  rw [trimLeft] at hhead
  rw [hhead] at h
  simpa using h

/-- Trimming twice is trimming once. -/
theorem trim_trim (s : Text) : trim (trim s) = trim s :=
  trim_eq_self_iff.2 ⟨head?_trim s, getLast?_trimRight (trimLeft s)⟩

theorem trim_isInfix (s : Text) : trim s <:+: s := by
  have hr : trimRight (trimLeft s) <+: trimLeft s := by
    have h := List.dropWhile_suffix (l := (trimLeft s).reverse) isBlank
    simpa [trimRight] using List.reverse_prefix.2 h
  exact hr.isInfix.trans (List.dropWhile_suffix _).isInfix

/-- What trimming takes from the front is blank. -/
theorem eq_append_trimLeft (s : Text) :
    ∃ w : Text, (∀ c ∈ w, isBlank c = true) ∧ s = w ++ trimLeft s :=
  ⟨s.takeWhile isBlank, fun c hc => List.all_eq_true.1 List.all_takeWhile c hc,
    List.takeWhile_append_dropWhile.symm⟩

/-- Trimming leaves nothing exactly of a blank text. -/
theorem trim_eq_nil_iff {s : Text} : trim s = [] ↔ isBlankText s = true := by
  rw [isBlankText, List.all_eq_true]
  constructor
  · intro h c hc
    obtain ⟨w, hw, hs⟩ := eq_append_trimLeft s
    obtain ⟨w', hw', hs'⟩ := eq_trimRight_append (trimLeft s)
    have hrest : trimLeft s = w' := hs'.trans (congrArg (· ++ w') h)
    rw [hs, hrest] at hc
    exact (List.mem_append.1 hc).elim (hw c) (hw' c)
  · intro h
    have hrest : ∀ c ∈ trimLeft s, isBlank c = true := fun c hc =>
      h c ((List.dropWhile_suffix isBlank).subset hc)
    exact trimRight_append_blanks (s := []) hrest

/-- Trimming takes no occurrence of a text without blanks. -/
theorem infix_trim_iff {needle s : Text} (h : ∀ c ∈ needle, isBlank c = false) :
    needle <:+: trim s ↔ needle <:+: s := by
  have hblank {w : Text} (hw : ∀ c ∈ w, isBlank c = true) : ∀ c ∈ w, c ∉ needle := by
    intro c hc hm
    exact absurd ((hw c hc).symm.trans (h c hm)) (by simp)
  refine ⟨fun hi => hi.trans (trim_isInfix s), fun hi => ?_⟩
  obtain ⟨w, hw, hs⟩ := eq_append_trimLeft s
  obtain ⟨v, hv, ht⟩ := eq_trimRight_append (trimLeft s)
  have hleft : needle <:+: trimLeft s := infix_of_infix_append (hblank hw) (hs ▸ hi)
  rw [ht] at hleft
  have hreverse := List.reverse_infix.2 hleft
  rw [List.reverse_append] at hreverse
  refine List.reverse_infix.1 (infix_of_infix_append (fun c hc hm => ?_) hreverse)
  exact hblank hv c (List.mem_reverse.1 hc) (List.mem_reverse.1 hm)

end Text

end Pushdown
