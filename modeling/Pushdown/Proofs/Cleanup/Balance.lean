/-
**Parentheses of a cleaned text.**

Both cleanups leave the parentheses outside of quotes alone, except that an empty group goes as a
whole, and then the two parentheses that go are neighbours.  Removing text between two quoted runs
can make one run of them, but only where nothing is left between them, so no parenthesis is taken
into a quoted run and none comes out of one.  A row of parentheses that loses neighbouring pairs
leaves as many groups open as before, so it is balanced exactly if it was.

Main definitions:

* `Cleanup.parens` — the parentheses outside of quotes;
* `Cleanup.DropsPair`, `Cleanup.Collapses` — a neighbouring pair goes, and any number of them;
* `Cleanup.openAfter`, `Cleanup.Balanced` — the groups that a row of parentheses leaves open.

Main results:

* `Cleanup.Collapses.openAfter` — a row that loses pairs leaves as many groups open;
* `Cleanup.parens_eq` — parentheses are those of the texts between quoted runs;
* `Cleanup.collapses_stripPass`, `Cleanup.collapses_stripGroups` — one pass, and all of them;
* `Cleanup.parens_trimConnectives` — trimming keeps every parenthesis;
* `Cleanup.sanitize_collapses` — **the cleanup deletes neighbouring pairs, so it keeps balance**.
-/

import Mathlib.Logic.Relation
import Pushdown.Proofs.Cleanup.Group
import Pushdown.Proofs.Cleanup.Quotation
import Pushdown.Proofs.Cleanup.Trimming

set_option autoImplicit false

namespace Pushdown

namespace Cleanup

open Segment (scan Sound Canonical isParen)

/-! ### Rows of parentheses -/

/-- An opening parenthesis goes together with the closing one right behind it. -/
inductive DropsPair : List Char → List Char → Prop
  | drop (front behind : List Char) : DropsPair (front ++ '(' :: ')' :: behind) (front ++ behind)

/-- A row of parentheses loses neighbouring pairs, one after the other. -/
abbrev Collapses : List Char → List Char → Prop := Relation.ReflTransGen DropsPair

/-- The number of groups that are open behind further parentheses; none if one of these closes a
group that is not open. -/
def openAfter : Nat → List Char → Option Nat
  | n, [] => some n
  | n, c :: rest =>
      if c = '(' then openAfter (n + 1) rest
      else if n = 0 then none
      else openAfter (n - 1) rest

/-- Every parenthesis has its partner. -/
def Balanced (row : List Char) : Prop := openAfter 0 row = some 0

theorem DropsPair.openAfter {a b : List Char} (h : DropsPair a b) (n : Nat) :
    openAfter n a = openAfter n b := by
  cases h with
  | drop front behind =>
      induction front generalizing n with
      | nil => simp [Cleanup.openAfter]
      | cons c front ih =>
          rw [List.cons_append, List.cons_append, Cleanup.openAfter, Cleanup.openAfter,
            ih (n + 1), ih (n - 1)]

/-- A row that loses pairs leaves as many groups open, whatever is open in front of it. -/
theorem Collapses.openAfter {a b : List Char} (h : Collapses a b) (n : Nat) :
    openAfter n a = openAfter n b := by
  induction h with
  | refl => rfl
  | tail _ hstep ih => rw [ih, hstep.openAfter]

theorem Collapses.balanced_iff {a b : List Char} (h : Collapses a b) :
    Balanced b ↔ Balanced a := by
  rw [Balanced, Balanced, h.openAfter]

theorem DropsPair.append_left {a b : List Char} (h : DropsPair a b) (front : List Char) :
    DropsPair (front ++ a) (front ++ b) := by
  cases h with
  | drop mid behind =>
      rw [← List.append_assoc, ← List.append_assoc]
      exact DropsPair.drop (front ++ mid) behind

theorem DropsPair.append_right {a b : List Char} (h : DropsPair a b) (behind : List Char) :
    DropsPair (a ++ behind) (b ++ behind) := by
  cases h with
  | drop front mid =>
      rw [List.append_assoc, List.append_assoc, List.cons_append, List.cons_append]
      exact DropsPair.drop front (mid ++ behind)

/-- Two rows side by side lose their pairs on their own. -/
theorem Collapses.append {a a' b b' : List Char} (ha : Collapses a a') (hb : Collapses b b') :
    Collapses (a ++ b) (a' ++ b') := by
  have hfront : Collapses (a ++ b) (a' ++ b) :=
    ha.lift (· ++ b) fun _ _ h => h.append_right b
  have hbehind : Collapses (a' ++ b) (a' ++ b') :=
    hb.lift (a' ++ ·) fun _ _ h => h.append_left a'
  exact hfront.trans hbehind

/-! ### Parentheses of segments and of texts -/

/-- The parentheses outside of quotes, in order. -/
def parens (segments : List Segment) : List Char :=
  segments.filterMap fun s =>
    match s with
    | .paren c => some c
    | _ => none

/-- The parentheses of a text without quotes. -/
def parensIn (t : Text) : List Char := t.filter isParen

theorem parensIn_append (s t : Text) : parensIn (s ++ t) = parensIn s ++ parensIn t :=
  List.filter_append s t

theorem parensIn_cons (c : Char) (t : Text) : parensIn (c :: t) = parensIn [c] ++ parensIn t :=
  parensIn_append [c] t

theorem parensIn_eq_nil {t : Text} (h : ∀ c ∈ t, isParen c = false) : parensIn t = [] := by
  rw [parensIn, List.filter_eq_nil_iff]
  intro c hc
  rw [h c hc]
  exact Bool.false_ne_true

theorem not_isParen_of_isBlank {c : Char} (h : Text.isBlank c = true) : isParen c = false := by
  rw [← Bool.not_eq_true]
  intro hparen
  rw [Segment.not_isBlank_of_isParen hparen] at h
  exact absurd h Bool.false_ne_true

theorem not_isParen_of_isWordPart {c : Char} (h : Segment.isWordPart c = true) :
    isParen c = false := (Segment.isWordPart_iff.1 h).2.2

/-- The parentheses of a segment that is not quoted are those of its text. -/
theorem parens_singleton {s : Segment} (hs : s.Sound) (hquoted : ∀ q, s ≠ .quoted q) :
    parens [s] = parensIn s.text := by
  cases s with
  | quoted q => exact absurd rfl (hquoted q)
  | space t => exact (parensIn_eq_nil fun c hc => not_isParen_of_isBlank (hs.2 c hc)).symm
  | paren c =>
      have hc : isParen c = true := hs
      simp [parens, parensIn, Segment.text, hc]
  | word t => exact (parensIn_eq_nil fun c hc => not_isParen_of_isWordPart (hs.2 c hc)).symm

theorem parens_append (a b : List Segment) : parens (a ++ b) = parens a ++ parens b :=
  List.filterMap_append

/-- **Parentheses outside of quotes are those of the texts between the quoted runs.** -/
theorem parens_eq {segments : List Segment} (h : ∀ a ∈ segments, a.Sound) :
    parens segments =
      parensIn (opening segments) ++ parensIn ((runs segments).flatMap Prod.snd) := by
  induction segments using Segment.quoted_induction with
  | nil => rfl
  | quoted q segments ih =>
      have hrest := ih fun a ha => h a (List.mem_cons_of_mem _ ha)
      rw [runs, List.flatMap_cons, parensIn_append, ← hrest]
      rfl
  | other s segments hs ih =>
      have hrest := ih fun a ha => h a (List.mem_cons_of_mem _ ha)
      have hfirst := parens_singleton (h s List.mem_cons_self) hs
      rw [← List.singleton_append, parens_append, hfirst, hrest, List.singleton_append,
        opening_cons hs, runs_cons hs, parensIn_append, List.append_assoc]

/-- Runs are glued where nothing stands between them, so all text between runs stays. -/
theorem flatMap_snd_glue (rs : List (Text × Text)) :
    (glue rs).flatMap Prod.snd = rs.flatMap Prod.snd := by
  induction rs with
  | nil => rfl
  | cons r rs ih =>
      obtain ⟨q, t⟩ := r
      rw [List.flatMap_cons, ← ih, glue]
      cases hglue : glue rs with
      | nil => rfl
      | cons r' rest =>
          obtain ⟨q', t'⟩ := r'
          simp only
          split
          · next hglued => rw [hglued.2, List.nil_append, List.flatMap_cons, List.flatMap_cons]
          · rfl

/-! ### Removing groups -/

theorem parensIn_emptyGroup {g : Text} (h : EmptyGroup g) : parensIn g = ['(', ')'] := by
  obtain ⟨a, b, ha, hb, rfl⟩ := h
  have hnone {t : Text} (ht : ∀ c ∈ t, Text.isBlank c = true) : parensIn t = [] :=
    parensIn_eq_nil fun c hc => not_isParen_of_isBlank (ht c hc)
  have hopen : parensIn ['('] = ['('] := by decide
  have hclose : parensIn [')'] = [')'] := by decide
  have hgroup : a ++ '(' :: b ++ [')'] = a ++ (['('] ++ (b ++ [')'])) := by simp
  rw [hgroup, parensIn_append, parensIn_append, parensIn_append, hnone ha, hnone hb, hopen, hclose,
    List.nil_append, List.nil_append, List.singleton_append]

/-- Behind the first character of a match stands the rest of it, and then what follows. -/
theorem drop_of_match {c : Char} {rest w g more : Text} (hs : c :: rest = w ++ g ++ more)
    (hgroup : EmptyGroup g) : rest.drop (w.length + g.length - 1) = more := by
  have hlength := length_emptyGroup hgroup
  obtain ⟨k, hk⟩ : ∃ k, w.length + g.length = k + 1 := ⟨w.length + g.length - 1, by omega⟩
  have hskip : (c :: rest).drop (w.length + g.length) = more := by
    rw [hs, ← List.length_append, List.drop_left]
  rw [hk, List.drop_succ_cons] at hskip
  rw [hk, Nat.add_sub_cancel, hskip]

/-- A match has one pair of parentheses. -/
theorem dropsPair_match {word w g : Text} (hword : Sound (.word word))
    (hupper : Text.toUpper w = word) (hgroup : EmptyGroup g) (more : Text) :
    DropsPair (parensIn (w ++ g ++ more)) (parensIn more) := by
  have hw : parensIn w = [] := parensIn_eq_nil fun c hc =>
    not_isParen_of_isWordPart ((sound_of_toUpper hword hupper).2 c hc)
  rw [parensIn_append, parensIn_append, hw, parensIn_emptyGroup hgroup]
  exact DropsPair.drop [] (parensIn more)

section

variable {word replacement : Text} (hword : Sound (.word word))
  (hreplacement : ∀ c ∈ replacement, Segment.isWordPart c = true)

include hword hreplacement

/-- Each match takes one neighbouring pair, and nothing else that is removed or put in has a
parenthesis. -/
theorem collapses_replaceFrom (inWord : Bool) (skip : Nat) (s : Text) :
    Collapses (parensIn (s.drop skip)) (parensIn (replaceFrom word replacement inWord skip s)) := by
  induction s generalizing inWord skip with
  | nil => rw [List.drop_nil, replaceFrom]
  | cons c rest ih =>
      cases skip with
      | succ skip =>
          rw [List.drop_succ_cons, replaceFrom]
          exact ih _ skip
      | zero =>
          rw [List.drop_zero, replaceFrom]
          split
          · next width hmatch =>
              have hwidth : groupWidth? word (c :: rest) = some width := by
                cases inWord with
                | true => exact absurd hmatch (by simp)
                | false => exact hmatch
              obtain ⟨w, g, more, hs, hupper, hgroup, rfl⟩ := exists_of_groupWidth? hwidth
              have hr : parensIn replacement = [] := parensIn_eq_nil fun d hd =>
                not_isParen_of_isWordPart (hreplacement d hd)
              have hrest := ih (Text.isWordChar c) (w.length + g.length - 1)
              rw [drop_of_match hs hgroup] at hrest
              rw [hs, parensIn_append replacement, hr, List.nil_append]
              exact Relation.ReflTransGen.head (dropsPair_match hword hupper hgroup more) hrest
          · have hrest := ih (Text.isWordChar c) 0
            rw [List.drop_zero] at hrest
            have hfirst : Collapses (parensIn [c]) (parensIn [c]) := Relation.ReflTransGen.refl
            rw [parensIn_cons c rest,
              parensIn_cons c (replaceFrom word replacement (Text.isWordChar c) 0 rest)]
            exact hfirst.append hrest

end

theorem collapses_replaceGroups (t : Text) :
    Collapses (parensIn t) (parensIn (replaceGroups t)) := by
  have hand : Sound (.word andWord) := ⟨by decide, by decide⟩
  have hwhere : Sound (.word whereWord) := ⟨by decide, by decide⟩
  have hempty : ∀ c ∈ ([] : Text), Segment.isWordPart c = true := by simp
  have hfirst := collapses_replaceFrom hand hempty false 0 t
  have hsecond := collapses_replaceFrom hwhere hwhere.2 false 0 (replaceFrom andWord [] false 0 t)
  rw [List.drop_zero] at hfirst hsecond
  exact hfirst.trans hsecond

theorem collapses_flatMap_snd (rs : List (Text × Text)) :
    Collapses (parensIn (rs.flatMap Prod.snd))
      (parensIn ((rs.map (Prod.map id replaceGroups)).flatMap Prod.snd)) := by
  induction rs with
  | nil => exact Relation.ReflTransGen.refl
  | cons r rs ih =>
      rw [List.map_cons, List.flatMap_cons, List.flatMap_cons, parensIn_append, parensIn_append]
      exact (collapses_replaceGroups r.2).append ih

/-- A pass deletes neighbouring pairs. -/
theorem collapses_stripPass (s : Text) :
    Collapses (parens (scan s)) (parens (scan (stripPass s))) := by
  obtain ⟨hopening, hruns⟩ := read_stripPass s
  rw [parens_eq (Segment.canonical_scan s).sound,
    parens_eq (Segment.canonical_scan (stripPass s)).sound, hopening, hruns, flatMap_snd_glue]
  exact (collapses_replaceGroups _).append (collapses_flatMap_snd _)

theorem collapses_stripGroups (s : Text) :
    Collapses (parens (scan s)) (parens (scan (stripGroups s))) := by
  induction s using pass_induction with
  | done s hpass => rw [stripGroups_of_stripPass hpass]
  | pass s _ ih =>
      rw [stripGroups_stripPass] at ih
      exact (collapses_stripPass s).trans ih

/-! ### Trimming connectives -/

/-- Blanks and connectives are no parentheses. -/
theorem parens_filter_isContent (segments : List Segment) :
    parens (segments.filter isContent) = parens segments := by
  induction segments with
  | nil => rfl
  | cons s segments ih =>
      cases s with
      | paren c =>
          have hc : isContent (.paren c) = true := rfl
          rw [List.filter_cons_of_pos hc, ← List.singleton_append, parens_append, ih]
          rfl
      | space t | quoted t | word t =>
          rw [List.filter_cons]
          split
          · exact ih
          · exact ih

/-- Trimming the end of a text changes no parenthesis. -/
theorem parens_trimLast (segments : List Segment) :
    parens (trimLast segments) = parens segments := by
  rcases List.eq_nil_or_concat segments with rfl | ⟨front, last, rfl⟩
  · rfl
  · rw [List.concat_eq_append, trimLast_concat]
    cases last with
    | space t => simp [parens]
    | quoted t => simp [parens]
    | paren c => rfl
    | word t => rfl

/-- Trimming keeps every parenthesis. -/
theorem parens_trimConnectives (s : Text) :
    parens (scan (trimConnectives s)) = parens (scan s) := by
  rw [scan_trimConnectives, parens_trimLast, ← parens_filter_isContent,
    filter_isContent_keptSegments, parens_filter_isContent]

/-! ### The cleanup -/

/-- **The cleanup deletes neighbouring pairs of parentheses and nothing else of them, so its result
is balanced exactly if the text is.** -/
theorem sanitize_collapses (s : Text) :
    Collapses (parens (scan s)) (parens (scan (sanitize s))) ∧
      (Balanced (parens (scan (sanitize s))) ↔ Balanced (parens (scan s))) := by
  have hcollapses : Collapses (parens (scan s)) (parens (scan (sanitize s))) := by
    have hstrip := collapses_stripGroups (trimConnectives s)
    rw [parens_trimConnectives] at hstrip
    simp only [sanitize]
    split
    · rw [parens_trimConnectives]
    · rw [parens_trimConnectives]
      exact hstrip
  exact ⟨hcollapses, hcollapses.balanced_iff⟩

end Cleanup

end Pushdown
