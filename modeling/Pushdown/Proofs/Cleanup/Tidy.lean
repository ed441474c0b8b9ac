/-
**Texts that the cleanup leaves.**

The cleanup of a statement drops connectives that dangle and empty groups behind `AND` and `WHERE`.
Every pass that changes a text makes it shorter, so a text stays exactly if each pass leaves it: its
ends are no blanks, its connectives connect, and outside of quotes no `AND` or `WHERE` has an empty
group behind it.

Main definitions:

* `Cleanup.EmptyGroup`, `Cleanup.Grouped` — a word with an empty group behind it;
* `Cleanup.stretches`, `Cleanup.opening` — the texts between the quoted runs, and the first one;
* `Cleanup.Tidy` — nothing dangles and no group is empty.

Main results:

* `Cleanup.replaceGroups_cases` — a stretch stays or gets shorter;
* `Cleanup.stripGroups_eq_self_iff` — when a text keeps its groups;
* `Cleanup.sanitize_eq_self_iff` — **the cleanup leaves exactly the tidy texts**;
* `Cleanup.length_sanitize_lt` — any other text gets shorter.
-/

import Pushdown.Cleanup.EmptyGroup
import Pushdown.Proofs.Cleanup.Connective

set_option autoImplicit false

namespace Pushdown

namespace Cleanup

/-! ### Empty groups -/

/-- A pair of parentheses with nothing but blanks in front and inside. -/
def EmptyGroup (g : Text) : Prop :=
  ∃ a b : Text, (∀ c ∈ a, Text.isBlank c = true) ∧ (∀ c ∈ b, Text.isBlank c = true) ∧
    g = a ++ '(' :: b ++ [')']

/-- A text starts with an upper case word, written in any case, and an empty group behind it. -/
def StartsGrouped (word s : Text) : Prop :=
  ∃ w g rest : Text, s = w ++ g ++ rest ∧ Text.toUpper w = word ∧ EmptyGroup g

/-- A word with an empty group behind it stands in a text, with no word character directly in front
of it.  `inWord` tells whether one stands in front of the text. -/
def GroupedFrom (word : Text) (inWord : Bool) (s : Text) : Prop :=
  ∃ before rest : Text, s = before ++ rest ∧ StartsGrouped word rest ∧
    (before.getLast?.map Text.isWordChar).getD inWord = false

/-- A word with an empty group behind it stands in a text. -/
def Grouped (word s : Text) : Prop := GroupedFrom word false s

theorem behindWord?_eq_some_iff {word s rest : Text} :
    behindWord? word s = some rest ↔ ∃ w, s = w ++ rest ∧ Text.toUpper w = word := by
  induction word generalizing s with
  | nil => simp [behindWord?, Text.toUpper, eq_comm]
  | cons x word ih =>
      cases s with
      | nil => simp [behindWord?, Text.toUpper]
      | cons c s =>
          rw [behindWord?]
          constructor
          · intro h
            split at h
            · next hx =>
                obtain ⟨w, hw, hupper⟩ := ih.1 h
                exact ⟨c :: w, by rw [hw, List.cons_append],
                  by rw [Text.toUpper, List.map_cons, ← hx, ← Text.toUpper, hupper]⟩
            · exact absurd h (by simp)
          · rintro ⟨w, hw, hupper⟩
            cases w with
            | nil => exact absurd hupper (by simp [Text.toUpper])
            | cons d w =>
                rw [List.cons_append, List.cons.injEq] at hw
                rw [Text.toUpper, List.map_cons, List.cons.injEq, ← Text.toUpper] at hupper
                rw [if_pos (by rw [hw.1, hupper.1])]
                exact ih.2 ⟨w, hw.2, hupper.2⟩

theorem trimLeft_append_of_blank {a : Text} (ha : ∀ c ∈ a, Text.isBlank c = true) (s : Text) :
    Text.trimLeft (a ++ s) = Text.trimLeft s := List.dropWhile_append_of_pos ha

theorem behindGroup?_eq_some_iff {s rest : Text} :
    behindGroup? s = some rest ↔ ∃ g, s = g ++ rest ∧ EmptyGroup g := by
  constructor
  · intro h
    unfold behindGroup? at h
    split at h
    · next more hmore =>
        split at h
        · next last hlast =>
            obtain ⟨a, ha, hs⟩ := Text.eq_append_trimLeft s
            obtain ⟨b, hb, hinner⟩ := Text.eq_append_trimLeft more
            refine ⟨a ++ '(' :: b ++ [')'], ?_, a, b, ha, hb, rfl⟩
            rw [hs, hmore, hinner, hlast, Option.some.inj h]
            simp
        · exact absurd h (by simp)
    · exact absurd h (by simp)
  · rintro ⟨g, hs, a, b, ha, hb, hg⟩
    have hopen : Text.trimLeft s = '(' :: (b ++ ')' :: rest) := by
      rw [hs, hg, List.append_assoc, List.append_assoc, trimLeft_append_of_blank ha,
        List.cons_append, List.singleton_append]
      rfl
    have hclose : Text.trimLeft (b ++ ')' :: rest) = ')' :: rest := by
      rw [trimLeft_append_of_blank hb]
      rfl
    simp only [behindGroup?, hopen, hclose]

theorem length_emptyGroup {g : Text} (h : EmptyGroup g) : 2 ≤ g.length := by
  obtain ⟨a, b, -, -, rfl⟩ := h
  simp only [List.length_append, List.length_cons, List.length_nil]
  omega

/-- A match takes a word and the empty group behind it. -/
theorem exists_of_groupWidth? {word s : Text} {width : Nat} (h : groupWidth? word s = some width) :
    ∃ w g rest : Text, s = w ++ g ++ rest ∧ Text.toUpper w = word ∧ EmptyGroup g ∧
      width = w.length + g.length := by
  unfold groupWidth? at h
  split at h
  · exact absurd h (by simp)
  · next more hmore =>
      obtain ⟨rest, hrest, rfl⟩ := Option.map_eq_some_iff.1 h
      obtain ⟨w, hw, hupper⟩ := behindWord?_eq_some_iff.1 hmore
      obtain ⟨g, hg, hgroup⟩ := behindGroup?_eq_some_iff.1 hrest
      refine ⟨w, g, rest, by rw [hw, hg, List.append_assoc], hupper, hgroup, ?_⟩
      rw [hw, hg]
      simp only [List.length_append]
      omega

/-- A match takes at least a word and two parentheses. -/
theorem bounds_of_groupWidth? {word s : Text} {width : Nat} (h : groupWidth? word s = some width) :
    word.length + 2 ≤ width ∧ width ≤ s.length ∧ StartsGrouped word s := by
  obtain ⟨w, g, rest, hs, hupper, hgroup, hwidth⟩ := exists_of_groupWidth? h
  have hlength : w.length = word.length := by rw [← hupper, Text.toUpper, List.length_map]
  have hgroupLength := length_emptyGroup hgroup
  have htotal := congrArg List.length hs
  simp only [List.length_append] at htotal
  exact ⟨by omega, by omega, w, g, rest, hs, hupper, hgroup⟩

theorem groupWidth?_isSome_iff {word s : Text} :
    (groupWidth? word s).isSome = true ↔ StartsGrouped word s := by
  constructor
  · intro h
    obtain ⟨width, hwidth⟩ := Option.isSome_iff_exists.1 h
    exact (bounds_of_groupWidth? hwidth).2.2
  · rintro ⟨w, g, rest, hs, hupper, hgroup⟩
    have hword : behindWord? word s = some (g ++ rest) :=
      behindWord?_eq_some_iff.2 ⟨w, by rw [hs, List.append_assoc], hupper⟩
    have hbehind : behindGroup? (g ++ rest) = some rest :=
      behindGroup?_eq_some_iff.2 ⟨g, rfl, hgroup⟩
    simp only [groupWidth?, hword, hbehind, Option.map_some, Option.isSome_some]

/-! ### One pass over a stretch -/

theorem not_groupedFrom_nil (word : Text) (inWord : Bool) : ¬ GroupedFrom word inWord [] := by
  rintro ⟨before, rest, hs, ⟨w, g, more, hrest, -, hgroup⟩, -⟩
  have hlength := length_emptyGroup hgroup
  have hnil := congrArg List.length hs
  rw [hrest] at hnil
  simp only [List.length_nil, List.length_append] at hnil
  omega

theorem getLast?_cons_getD (c : Char) (s : Text) (inWord : Bool) :
    ((c :: s).getLast?.map Text.isWordChar).getD inWord =
      (s.getLast?.map Text.isWordChar).getD (Text.isWordChar c) := by
  rw [List.getLast?_cons]
  cases s.getLast? <;> rfl

/-- A match starts at the first character or behind it. -/
theorem groupedFrom_cons_iff {word : Text} {inWord : Bool} {c : Char} {rest : Text} :
    GroupedFrom word inWord (c :: rest) ↔
      (inWord = false ∧ StartsGrouped word (c :: rest)) ∨
        GroupedFrom word (Text.isWordChar c) rest := by
  constructor
  · rintro ⟨before, more, hs, hstart, hword⟩
    cases before with
    | nil => exact Or.inl ⟨by simpa using hword, by rw [hs]; exact hstart⟩
    | cons d before =>
        rw [List.cons_append, List.cons.injEq] at hs
        rw [getLast?_cons_getD, ← hs.1] at hword
        exact Or.inr ⟨before, more, hs.2, hstart, hword⟩
  · rintro (⟨hword, hstart⟩ | ⟨before, more, hs, hstart, hword⟩)
    · exact ⟨[], c :: rest, rfl, hstart, by simpa using hword⟩
    · exact ⟨c :: before, more, by rw [hs, List.cons_append], hstart,
        by rw [getLast?_cons_getD]; exact hword⟩

section

variable {word replacement : Text} (hlength : replacement.length ≤ word.length)

include hlength

theorem length_replaceFrom_le (inWord : Bool) (skip : Nat) (s : Text) :
    (replaceFrom word replacement inWord skip s).length ≤ (s.drop skip).length := by
  induction s generalizing inWord skip with
  | nil => simp [replaceFrom]
  | cons c rest ih =>
      cases skip with
      | succ skip =>
          rw [replaceFrom, List.drop_succ_cons]
          exact ih _ skip
      | zero =>
          rw [replaceFrom, List.drop_zero, List.length_cons]
          split
          · next width hwidth =>
              have hbounds : word.length + 2 ≤ width ∧ width ≤ (c :: rest).length := by
                cases inWord with
                | true => exact absurd hwidth (by simp)
                | false =>
                    obtain ⟨hmin, hmax, -⟩ := bounds_of_groupWidth? hwidth
                    exact ⟨hmin, hmax⟩
              have hrest := ih (Text.isWordChar c) (width - 1)
              rw [List.length_drop] at hrest
              rw [List.length_cons] at hbounds
              rw [List.length_append]
              omega
          · exact Nat.succ_le_succ (ih _ 0)

/-- A pass that finds a match makes the text shorter, and any other one leaves it. -/
theorem replaceFrom_cases (inWord : Bool) (s : Text) :
    (GroupedFrom word inWord s ∧ (replaceFrom word replacement inWord 0 s).length < s.length) ∨
      (¬ GroupedFrom word inWord s ∧ replaceFrom word replacement inWord 0 s = s) := by
  induction s generalizing inWord with
  | nil => exact Or.inr ⟨not_groupedFrom_nil word inWord, by rw [replaceFrom]⟩
  | cons c rest ih =>
      rw [replaceFrom, groupedFrom_cons_iff]
      cases hmatch : (if inWord then none else groupWidth? word (c :: rest)) with
      | some width =>
          cases inWord with
          | true => exact absurd hmatch (by simp)
          | false =>
              obtain ⟨hmin, hmax, hstart⟩ := bounds_of_groupWidth? hmatch
              refine Or.inl ⟨Or.inl ⟨rfl, hstart⟩, ?_⟩
              have hrest := length_replaceFrom_le hlength (Text.isWordChar c) (width - 1) rest
              rw [List.length_drop] at hrest
              simp only [List.length_append, List.length_cons] at hmax ⊢
              omega
      | none =>
          have hstart : ¬ (inWord = false ∧ StartsGrouped word (c :: rest)) := by
            rintro ⟨rfl, hstart⟩
            have hsome := groupWidth?_isSome_iff.2 hstart
            simp only [Bool.false_eq_true, if_false] at hmatch
            rw [hmatch] at hsome
            exact absurd hsome (by simp)
          simp only [hstart, false_or, List.length_cons, Nat.succ_lt_succ_iff, List.cons.injEq,
            true_and]
          exact ih _

end

/-- A stretch stays exactly if neither word has an empty group behind it; else it gets shorter. -/
theorem replaceGroups_cases (stretch : Text) :
    ((Grouped andWord stretch ∨ Grouped whereWord stretch) ∧
        (replaceGroups stretch).length < stretch.length) ∨
      (¬ (Grouped andWord stretch ∨ Grouped whereWord stretch) ∧
        replaceGroups stretch = stretch) := by
  unfold replaceGroups
  have hempty : ([] : Text).length ≤ andWord.length := Nat.zero_le _
  rcases replaceFrom_cases hempty false stretch with
    ⟨hand, hlt⟩ | ⟨hand, heq⟩
  · refine Or.inl ⟨Or.inl hand, Nat.lt_of_le_of_lt ?_ hlt⟩
    exact length_replaceFrom_le (Nat.le_refl whereWord.length) false 0 _
  · rw [heq]
    rcases replaceFrom_cases (Nat.le_refl whereWord.length) false stretch with
      ⟨hwhere, hlt⟩ | ⟨hwhere, heq⟩
    · exact Or.inl ⟨Or.inr hwhere, hlt⟩
    · exact Or.inr ⟨not_or.2 ⟨hand, hwhere⟩, heq⟩

/-! ### Passes over a text -/

/-- The texts between the quoted runs, one more than there are such runs. -/
def stretches : List Segment → List Text
  | [] => [[]]
  | .quoted _ :: rest => [] :: stretches rest
  | s :: rest => (s.text ++ (stretches rest).headD []) :: (stretches rest).tail

/-- The text in front of the first quoted run. -/
def opening (segments : List Segment) : Text := (stretches segments).headD []

theorem stretches_cons {s : Segment} (hs : ∀ q, s ≠ .quoted q) (segments : List Segment) :
    stretches (s :: segments) = (s.text ++ opening segments) :: (stretches segments).tail := by
  cases s with
  | quoted q => exact absurd rfl (hs q)
  | space t => rfl
  | paren c => rfl
  | word t => rfl

theorem opening_cons {s : Segment} (hs : ∀ q, s ≠ .quoted q) (segments : List Segment) :
    opening (s :: segments) = s.text ++ opening segments := by
  rw [opening, stretches_cons hs]
  rfl

theorem stretches_eq_cons (segments : List Segment) :
    stretches segments = opening segments :: (stretches segments).tail := by
  cases segments with
  | nil => rfl
  | cons s segments => cases s <;> rfl

theorem stripSegments_cons {s : Segment} (hs : ∀ q, s ≠ .quoted q) (segments : List Segment) :
    stripSegments (s :: segments) =
      (s.text ++ (stripSegments segments).1, (stripSegments segments).2) := by
  cases s with
  | quoted q => exact absurd rfl (hs q)
  | space t => rfl
  | paren c => rfl
  | word t => rfl

/-- A pass starts with the text in front of the first quoted run. -/
theorem fst_stripSegments (segments : List Segment) :
    (stripSegments segments).1 = opening segments := by
  induction segments using Segment.quoted_induction with
  | nil => rfl
  | quoted q segments _ => rfl
  | other s segments hs ih => rw [stripSegments_cons hs, opening_cons hs, ih]

/-- Outside of quotes no `AND` and no `WHERE` has an empty group behind it. -/
def Ungrouped (stretch : Text) : Prop := ¬ (Grouped andWord stretch ∨ Grouped whereWord stretch)

/-- What a pass makes of the segments behind the first stretch: they get shorter, or no later
stretch has an empty group and they stay. -/
theorem stripSegments_cases (segments : List Segment) :
    ∃ behind : Text, segments.flatMap Segment.text = opening segments ++ behind ∧
      (¬ (∀ t ∈ (stretches segments).tail, Ungrouped t) ∧
          (stripSegments segments).2.length < behind.length ∨
        (∀ t ∈ (stretches segments).tail, Ungrouped t) ∧
          (stripSegments segments).2 = behind) := by
  induction segments using Segment.quoted_induction with
  | nil => exact ⟨[], rfl, Or.inr ⟨by simp [stretches], rfl⟩⟩
  | quoted q segments ih =>
      obtain ⟨behind, htext, hcases⟩ := ih
      refine ⟨q ++ opening segments ++ behind, ?_, ?_⟩
      · rw [List.flatMap_cons, htext, List.append_assoc]
        rfl
      · have hall : (∀ t ∈ (stretches (.quoted q :: segments)).tail, Ungrouped t) ↔
            Ungrouped (opening segments) ∧ ∀ t ∈ (stretches segments).tail, Ungrouped t := by
          rw [stretches, List.tail_cons, stretches_eq_cons, List.forall_mem_cons, List.tail_cons]
        rw [hall, stripSegments]
        simp only [fst_stripSegments, List.length_append]
        rcases replaceGroups_cases (opening segments) with ⟨hgroup, hlt⟩ | ⟨hgroup, heq⟩
        · refine Or.inl ⟨fun h => h.1 hgroup, ?_⟩
          rcases hcases with ⟨-, hrest⟩ | ⟨-, hrest⟩
          · omega
          · rw [hrest]
            omega
        · rw [heq]
          rcases hcases with ⟨hnot, hrest⟩ | ⟨hall, hrest⟩
          · exact Or.inl ⟨fun h => hnot h.2, by omega⟩
          · exact Or.inr ⟨⟨hgroup, hall⟩, by rw [hrest]⟩
  | other s segments hs ih =>
      obtain ⟨behind, htext, hcases⟩ := ih
      refine ⟨behind, ?_, ?_⟩
      · rw [List.flatMap_cons, htext, opening_cons hs, List.append_assoc]
      · rw [stretches_cons hs, stripSegments_cons hs, List.tail_cons]
        exact hcases

/-- A pass leaves a text exactly if no stretch has an empty group; else the text gets shorter. -/
theorem stripPass_cases (sql : Text) :
    (¬ (∀ t ∈ stretches (Segment.scan sql), Ungrouped t) ∧ (stripPass sql).length < sql.length) ∨
      ((∀ t ∈ stretches (Segment.scan sql), Ungrouped t) ∧ stripPass sql = sql) := by
  obtain ⟨behind, htext, hcases⟩ := stripSegments_cases (Segment.scan sql)
  rw [Segment.flatMap_text_scan] at htext
  have hlength := congrArg List.length htext
  rw [stretches_eq_cons, List.forall_mem_cons, stripPass]
  simp only [fst_stripSegments, List.length_append] at hlength ⊢
  rcases replaceGroups_cases (opening (Segment.scan sql)) with ⟨hgroup, hlt⟩ | ⟨hgroup, heq⟩
  · refine Or.inl ⟨fun h => h.1 hgroup, ?_⟩
    rcases hcases with ⟨-, hrest⟩ | ⟨-, hrest⟩
    · omega
    · rw [hrest]
      omega
  · rw [heq]
    rcases hcases with ⟨hnot, hrest⟩ | ⟨hall, hrest⟩
    · exact Or.inl ⟨fun h => hnot h.2, by omega⟩
    · exact Or.inr ⟨⟨hgroup, hall⟩, by rw [hrest, ← htext]⟩

theorem length_stripPass_le (sql : Text) : (stripPass sql).length ≤ sql.length := by
  rcases stripPass_cases sql with ⟨-, hlt⟩ | ⟨-, heq⟩
  · exact Nat.le_of_lt hlt
  · exact Nat.le_of_eq (congrArg List.length heq)

theorem length_stripFrom_le (fuel : Nat) (sql : Text) :
    (stripFrom fuel sql).length ≤ sql.length := by
  induction fuel generalizing sql with
  | zero => exact Nat.le_refl _
  | succ fuel ih =>
      rw [stripFrom]
      split
      · exact Nat.le_refl _
      · exact Nat.le_trans (ih _) (length_stripPass_le sql)

/-- A text keeps its groups exactly if no stretch has an empty one behind `AND` or `WHERE`; else it
gets shorter. -/
theorem stripGroups_cases (sql : Text) :
    (¬ (∀ t ∈ stretches (Segment.scan sql), Ungrouped t) ∧
        (stripGroups sql).length < sql.length) ∨
      ((∀ t ∈ stretches (Segment.scan sql), Ungrouped t) ∧ stripGroups sql = sql) := by
  rw [stripGroups, stripFrom]
  rcases stripPass_cases sql with ⟨hnot, hlt⟩ | ⟨hall, heq⟩
  · have hne : stripPass sql ≠ sql := by
      intro heq
      rw [heq] at hlt
      exact absurd hlt (Nat.lt_irrefl _)
    rw [if_neg hne]
    exact Or.inl ⟨hnot, Nat.lt_of_le_of_lt (length_stripFrom_le sql.length _) hlt⟩
  · rw [if_pos heq]
    exact Or.inr ⟨hall, rfl⟩

theorem stripGroups_eq_self_iff {sql : Text} :
    stripGroups sql = sql ↔ ∀ t ∈ stretches (Segment.scan sql), Ungrouped t := by
  rcases stripGroups_cases sql with ⟨hnot, hlt⟩ | ⟨hall, heq⟩
  · refine ⟨fun h => ?_, fun h => absurd h hnot⟩
    rw [h] at hlt
    exact absurd hlt (Nat.lt_irrefl _)
  · exact ⟨fun _ => hall, fun _ => heq⟩

/-! ### The cleanup -/

/-- Nothing dangles and no group is empty. -/
structure Tidy (sql : Text) : Prop where
  /-- There are no blanks at the ends. -/
  trimmed : Text.trim sql = sql
  /-- Every segment may stand behind the one in front of it. -/
  connected : Connected none (significant (Segment.scan sql))
  /-- The last segment is no connective. -/
  closed : ∀ a ∈ (significant (Segment.scan sql)).getLast?, isConnective a = false
  /-- Outside of quotes no connective has an empty group behind it. -/
  ungrouped : ∀ t ∈ stretches (Segment.scan sql), Ungrouped t

/-- A pass that changes a text makes it shorter and no later pass makes it longer, so a text that
does not get shorter is left by every pass. -/
theorem passes_of_length {sql : Text} (h : sql.length ≤ (sanitize sql).length) :
    trimConnectives sql = sql ∧ stripGroups sql = sql := by
  have hfirst := length_trimConnectives_le sql
  rcases stripGroups_cases (trimConnectives sql) with ⟨-, hlt⟩ | ⟨-, hstrip⟩
  · have hne : stripGroups (trimConnectives sql) ≠ trimConnectives sql := by
      intro heq
      rw [heq] at hlt
      exact absurd hlt (Nat.lt_irrefl _)
    have hlast := length_trimConnectives_le (stripGroups (trimConnectives sql))
    simp only [sanitize, hne, if_false] at h
    omega
  · simp only [sanitize, hstrip, if_true] at h
    have htrim := trimConnectives_eq_of_length h
    rw [htrim] at hstrip
    exact ⟨htrim, hstrip⟩

/-- **The cleanup leaves exactly the tidy texts.** -/
theorem sanitize_eq_self_iff {sql : Text} : sanitize sql = sql ↔ Tidy sql := by
  have htidy : Tidy sql ↔ trimConnectives sql = sql ∧ stripGroups sql = sql := by
    rw [trimConnectives_eq_self_iff, stripGroups_eq_self_iff]
    exact ⟨fun h => ⟨⟨h.trimmed, h.connected, h.closed⟩, h.ungrouped⟩,
      fun h => ⟨h.1.1, h.1.2.1, h.1.2.2, h.2⟩⟩
  rw [htidy]
  constructor
  · intro h
    exact passes_of_length (Nat.le_of_eq (congrArg List.length h.symm))
  · rintro ⟨htrim, hstrip⟩
    simp only [sanitize, htrim, hstrip, if_true]

/-- A text that is not tidy gets shorter. -/
theorem length_sanitize_lt {sql : Text} (h : ¬ Tidy sql) : (sanitize sql).length < sql.length := by
  rw [← Nat.not_le]
  intro hle
  obtain ⟨htrim, hstrip⟩ := passes_of_length hle
  exact h (sanitize_eq_self_iff.1 (by simp only [sanitize, htrim, hstrip, if_true]))

end Cleanup

end Pushdown
