/-
**Cleaning up twice.**

Removing groups can leave connectives dangling, and dropping connectives can empty a group.  The
cleanup drops connectives, removes groups until there are none, and drops connectives once more, so
the connectives of what it returns connect, but a group that the last step empties is left for a
second call.  Which group that is can be told from the segments: one with nothing but connectives in
it, behind a word that ends in `AND` or `WHERE` and that is kept, or whose place another `AND`
takes.  Blanks play no part in this, so what is kept is followed without them.

Main definitions:

* `Cleanup.advance`, `Cleanup.run` — what is kept, without blanks;
* `Cleanup.Leads` — a segment that an empty group behind it goes with;
* `Cleanup.Led`, `Cleanup.Opened`, `Cleanup.LeavesGroup` — segments up to such a group, up to its
  end, and beyond it.

Main results:

* `Cleanup.significant_keptSegments` — blanks play no part;
* `Cleanup.advance_cases` — what one segment does;
* `Cleanup.led_of_run`, `Cleanup.opened_of_run`, `Cleanup.leavesGroup_of_run` — where the segments
  stood, told from what is kept, and `Cleanup.run_of_led`, `Cleanup.run_of_opened`,
  `Cleanup.run_of_leavesGroup` — the converse;
* `Cleanup.groupedRow_keptSegments_iff` — **which empty groups are left**;
* `Cleanup.sanitize_sanitize_iff` — **when a second cleanup changes nothing**.
-/

import Pushdown.Proofs.Cleanup.Group
import Pushdown.Proofs.Cleanup.Trimming

set_option autoImplicit false

namespace Pushdown

namespace Cleanup

open Segment (Sound Canonical)

/-! ### Blanks play no part -/

/-- What is kept, last first and without blanks, after one more segment that is no blank. -/
def advance (kept : List Segment) (s : Segment) : List Segment :=
  if isAnd s then
    if refusesAnd (kept.dropWhile isAnd).head? then kept.dropWhile isAnd
    else s :: kept.dropWhile isAnd
  else if isTerminator s || s = .paren ')' then s :: kept.dropWhile isConnective
  else s :: kept

theorem significant_dropDangling? (dangles : Segment → Bool) (kept : List Segment) :
    ((dropDangling? dangles kept).map significant).getD (significant kept) =
      (significant kept).dropWhile dangles := by
  induction kept with
  | nil => rfl
  | cons s kept ih =>
      rw [dropDangling?]
      cases hs : s.isSpace with
      | true => simpa [significant_cons_of_isSpace hs] using ih
      | false =>
          rw [significant_cons hs]
          cases hd : dangles s with
          | true => simpa [hd, Option.getD_map] using ih
          | false => simp [hd]

theorem significant_trimEnd (dangles : Segment → Bool) (kept : List Segment) :
    significant (trimEnd dangles kept) = (significant kept).dropWhile dangles := by
  rw [← significant_dropDangling?, trimEnd, Option.getD_map]

theorem significant_step {kept : List Segment} {s : Segment} (hs : s.isSpace = false) :
    significant (step kept s) = advance (significant kept) s := by
  unfold step advance
  simp only [hs, Bool.false_eq_true, if_false, lastSignificant?_eq_head?, significant_trimEnd]
  split
  · split
    · exact significant_trimEnd isAnd kept
    · rw [significant_cons hs, significant_trimEnd]
  · split
    · rw [significant_cons hs, significant_trimEnd]
    · exact significant_cons hs kept

theorem significant_foldl (segments kept : List Segment) :
    significant (segments.foldl step kept) =
      (significant segments).foldl advance (significant kept) := by
  induction segments generalizing kept with
  | nil => rfl
  | cons s segments ih =>
      rw [List.foldl_cons, ih]
      cases hs : s.isSpace with
      | false => rw [significant_step hs, significant_cons hs, List.foldl_cons]
      | true =>
          rw [significant_cons_of_isSpace hs]
          rcases step_cases kept s with ⟨-, hstep, -⟩ | ⟨-, hstep, -⟩ | ⟨hand, -⟩ | ⟨hspace, -⟩
          · rw [hstep]
          · rw [hstep, significant_cons_of_isSpace hs]
          · obtain ⟨w, rfl⟩ := eq_word_of_isConnective (isConnective_of_isAnd hand)
            exact absurd hs (by simp [Segment.isSpace])
          · exact absurd (hs.symm.trans hspace) (by simp)

/-- What is kept of segments without blanks, last first. -/
def run (segments : List Segment) : List Segment := segments.foldl advance []

theorem run_concat (segments : List Segment) (s : Segment) :
    run (segments ++ [s]) = advance (run segments) s := by
  rw [run, List.foldl_append, List.foldl_cons, List.foldl_nil, ← run]

theorem significant_keptSegments (segments : List Segment) :
    significant (keptSegments segments) =
      ((run (significant segments)).dropWhile isConnective).reverse := by
  rw [keptSegments, significant_reverse, significant_trimEnd, significant_foldl]
  rfl

/-! ### What one segment does -/

/-- What a segment that is no blank does: it goes behind what is left without the connectives that
it makes dangle, unless it is an `AND` that connects nothing there.  An `AND` takes only others with
it. -/
theorem advance_cases (kept : List Segment) (s : Segment) :
    ∃ more left, kept = more ++ left ∧ (∀ a ∈ more, isConnective a = true) ∧
      (isAnd s = true → ∀ a ∈ more, isAnd a = true) ∧
      ((isAnd s = true ∧ refusesAnd left.head? = true ∧ advance kept s = left) ∨
        (Fits left.head? s ∧
          (more = [] ∨ isAnd s = true ∨ isTerminator s = true ∨ s = .paren ')') ∧
          advance kept s = s :: left)) := by
  unfold advance
  by_cases hand : isAnd s = true
  · have hmore : ∀ a ∈ kept.takeWhile isAnd, isAnd a = true :=
      fun a ha => List.mem_takeWhile_imp ha
    refine ⟨kept.takeWhile isAnd, kept.dropWhile isAnd, List.takeWhile_append_dropWhile.symm,
      fun a ha => isConnective_of_isAnd (hmore a ha), fun _ => hmore, ?_⟩
    rw [if_pos hand]
    cases hrefuses : refusesAnd (kept.dropWhile isAnd).head? with
    | true => exact Or.inl ⟨hand, rfl, by simp⟩
    | false =>
        have hfits : Fits (kept.dropWhile isAnd).head? s :=
          (fits_iff_of_isAnd hand).2 ⟨hrefuses, Segment.head?_dropWhile_eq_false _ _⟩
        exact Or.inr ⟨hfits, Or.inr (Or.inl hand), by simp⟩
  · rw [if_neg hand]
    by_cases hend : isTerminator s = true ∨ s = .paren ')'
    · refine ⟨kept.takeWhile isConnective, kept.dropWhile isConnective,
        List.takeWhile_append_dropWhile.symm, fun a ha => List.mem_takeWhile_imp ha,
        fun h => absurd h hand, Or.inr ⟨?_, Or.inr (Or.inr hend), ?_⟩⟩
      · exact ⟨fun h => absurd h hand, fun _ => Segment.head?_dropWhile_eq_false _ _⟩
      · rw [if_pos (by simpa using hend)]
    · refine ⟨[], kept, rfl, by simp, by simp, Or.inr ⟨?_, Or.inl rfl, ?_⟩⟩
      · exact ⟨fun h => absurd h hand, fun h => absurd h hend⟩
      · rw [if_neg (by simpa using hend)]

/-! ### Segments that lead a group -/

/-- A segment ends in one of the words that go with an empty group behind them. -/
def Leads (a : Segment) : Prop := EndsIn andWord a ∨ EndsIn whereWord a

theorem leads_of_isConnective {a : Segment} (h : isConnective a = true) : Leads a := by
  rcases Bool.or_eq_true _ _ ▸ h with h | h
  · exact Or.inr (endsIn_of_isKeyword (by decide) h)
  · exact Or.inl (endsIn_of_isKeyword (by decide) h)

theorem Leads.exists_word {a : Segment} (h : Leads a) : ∃ w, a = .word w := by
  rcases h with ⟨front, w, rfl, -⟩ | ⟨front, w, rfl, -⟩
  · exact ⟨_, rfl⟩
  · exact ⟨_, rfl⟩

theorem Leads.ne_paren {a : Segment} (h : Leads a) (c : Char) : a ≠ .paren c := by
  obtain ⟨w, rfl⟩ := h.exists_word
  simp

/-- No word that ends a condition ends in a connective. -/
theorem Leads.not_ends {a : Segment} (h : Leads a) :
    ¬ (isTerminator a = true ∨ a = .paren ')') := by
  rintro (hend | hparen)
  · obtain ⟨w, rfl⟩ := h.exists_word
    have hnone : ∀ t ∈ terminators, ¬ Text.toLower andWord <:+ Text.toLower t ∧
        ¬ Text.toLower whereWord <:+ Text.toLower t := by decide
    obtain ⟨t, ht, hkeyword⟩ := List.any_eq_true.1 hend
    have hsame : Text.toLower w = Text.toLower t := by
      simpa [Segment.isKeyword, Text.eqIgnoreCase] using hkeyword
    rcases h with h | h
    · exact (hnone t ht).1 (hsame ▸ h.suffix)
    · exact (hnone t ht).2 (hsame ▸ h.suffix)
  · exact h.ne_paren _ hparen

/-- Segments end in one that leads a group, with nothing but `AND` behind it.  It is kept, or
another one takes its place. -/
def Led (segments : List Segment) : Prop :=
  ∃ before a between, segments = before ++ a :: between ∧ Leads a ∧ Fits before.getLast? a ∧
    ∀ s ∈ between, isAnd s = true

/-- Segments end in a group that is led, with nothing but connectives in it. -/
def Opened (segments : List Segment) : Prop :=
  ∃ before inside, segments = before ++ .paren '(' :: inside ∧ Led before ∧
    ∀ s ∈ inside, isConnective s = true

/-- Among segments is a group that is led and has nothing but connectives in it. -/
def LeavesGroup (segments : List Segment) : Prop :=
  ∃ before rest, segments = before ++ .paren ')' :: rest ∧ Opened before

theorem Led.concat {segments : List Segment} (h : Led segments) {s : Segment}
    (hs : isAnd s = true) : Led (segments ++ [s]) := by
  obtain ⟨before, a, between, rfl, ha, hfits, hbetween⟩ := h
  exact ⟨before, a, between ++ [s], by simp, ha, hfits,
    List.forall_mem_append.2 ⟨hbetween, List.forall_mem_singleton.2 hs⟩⟩

theorem led_concat {segments : List Segment} {a : Segment} (ha : Leads a)
    (hfits : Fits segments.getLast? a) : Led (segments ++ [a]) :=
  ⟨segments, a, [], rfl, ha, hfits, by simp⟩

theorem Opened.concat {segments : List Segment} (h : Opened segments) {s : Segment}
    (hs : isConnective s = true) : Opened (segments ++ [s]) := by
  obtain ⟨before, inside, rfl, hled, hinside⟩ := h
  exact ⟨before, inside ++ [s], by simp, hled,
    List.forall_mem_append.2 ⟨hinside, List.forall_mem_singleton.2 hs⟩⟩

theorem LeavesGroup.concat {segments : List Segment} (h : LeavesGroup segments) (s : Segment) :
    LeavesGroup (segments ++ [s]) := by
  obtain ⟨before, rest, rfl, hopened⟩ := h
  exact ⟨before, rest ++ [s], by simp, hopened⟩

/-! ### From what is kept to the segments -/

theorem not_isConnective_paren (c : Char) : isConnective (.paren c) = false := rfl

/-- What is no connective and no opening parenthesis is kept last only behind the last segment. -/
theorem getLast?_of_run {segments kept : List Segment} {b : Segment} (h : run segments = b :: kept)
    (hconnective : isConnective b = false) (hparen : b ≠ .paren '(') :
    segments.getLast? = some b := by
  rcases List.eq_nil_or_concat segments with rfl | ⟨front, s, rfl⟩
  · exact absurd h (by simp [run])
  · rw [List.concat_eq_append] at h ⊢
    rw [run_concat] at h
    rw [List.getLast?_concat]
    obtain ⟨more, left, -, -, -, ⟨-, hrefuses, hadvance⟩ | ⟨-, -, hadvance⟩⟩ :=
      advance_cases (run front) s
    · rw [← hadvance, h, List.head?_cons, refusesAnd, Bool.or_eq_true,
        decide_eq_true_eq] at hrefuses
      rcases hrefuses with hopen | hwhere
      · exact absurd hopen hparen
      · rw [isConnective, hwhere] at hconnective
        exact absurd hconnective (by simp)
    · rw [(List.cons.inj (hadvance.symm.trans h)).1]

/-- Where a leading segment is kept last, with nothing but `AND` behind it, one was last. -/
theorem led_of_run {segments ands kept : List Segment} {a : Segment}
    (h : run segments = ands ++ a :: kept) (hands : ∀ s ∈ ands, isAnd s = true) (ha : Leads a) :
    Led segments := by
  induction segments using List.reverseRecOn generalizing ands a kept with
  | nil => exact absurd h (by simp [run])
  | append_singleton segments s ih =>
      rw [run_concat] at h
      obtain ⟨more, left, hrun, -, hmore, hcases⟩ := advance_cases (run segments) s
      -- An `AND` that goes, or that takes the place of others, stands behind what led before.
      have hbefore (hand : isAnd s = true) {front : List Segment}
          (hleft : left = front ++ a :: kept) (hfront : ∀ b ∈ front, isAnd b = true) :
          Led (segments ++ [s]) := by
        have hall : ∀ b ∈ more ++ front, isAnd b = true :=
          List.forall_mem_append.2 ⟨hmore hand, hfront⟩
        exact (ih (by rw [hrun, hleft, List.append_assoc]) hall ha).concat hand
      rcases hcases with ⟨hand, -, hadvance⟩ | ⟨hfits, -, hadvance⟩
      · exact hbefore hand (hadvance.symm.trans h) hands
      · have hs := hadvance.symm.trans h
        cases ands with
        | cons d ands =>
            obtain ⟨rfl, hleft⟩ := List.cons.inj hs
            exact hbefore (hands s List.mem_cons_self) hleft
              fun b hb => hands b (List.mem_cons_of_mem _ hb)
        | nil =>
            obtain rfl : s = a := (List.cons.inj hs).1
            by_cases hand : isAnd s = true
            · cases more with
              | cons c more =>
                  have hfront : run segments = [] ++ c :: (more ++ left) := hrun
                  have hc := leads_of_isConnective
                    (isConnective_of_isAnd (hmore hand c List.mem_cons_self))
                  exact (ih hfront (by simp) hc).concat hand
              | nil =>
                  obtain ⟨b, hb, hconnective, hparen⟩ := hfits.and_behind hand
                  obtain ⟨rest, hrest⟩ := List.head?_eq_some_iff.1 hb
                  have hlast := getLast?_of_run (hrun.trans hrest) hconnective hparen
                  rw [Option.mem_def.1 hb, ← hlast] at hfits
                  exact led_concat ha hfits
            · exact led_concat ha ⟨fun h => absurd h hand, fun hend => absurd hend ha.not_ends⟩

/-- Where a led opening parenthesis is kept, with nothing but connectives behind it, a led group was
open. -/
theorem opened_of_run {segments inside kept : List Segment} {a : Segment}
    (h : run segments = inside ++ .paren '(' :: a :: kept)
    (hinside : ∀ s ∈ inside, isConnective s = true) (ha : Leads a) : Opened segments := by
  induction segments using List.reverseRecOn generalizing inside with
  | nil => exact absurd h (by simp [run])
  | append_singleton segments s ih =>
      rw [run_concat] at h
      obtain ⟨more, left, hrun, hmore, -, hcases⟩ := advance_cases (run segments) s
      have hbefore (hs : isConnective s = true) {front : List Segment}
          (hleft : left = front ++ .paren '(' :: a :: kept)
          (hfront : ∀ b ∈ front, isConnective b = true) : Opened (segments ++ [s]) := by
        have hall : ∀ b ∈ more ++ front, isConnective b = true :=
          List.forall_mem_append.2 ⟨hmore, hfront⟩
        exact (ih (by rw [hrun, hleft, List.append_assoc]) hall).concat hs
      rcases hcases with ⟨hand, -, hadvance⟩ | ⟨-, hpushed, hadvance⟩
      · exact hbefore (isConnective_of_isAnd hand) (hadvance.symm.trans h) hinside
      · have hs := hadvance.symm.trans h
        cases inside with
        | cons d inside =>
            obtain ⟨rfl, hleft⟩ := List.cons.inj hs
            exact hbefore (hinside s List.mem_cons_self) hleft
              fun b hb => hinside b (List.mem_cons_of_mem _ hb)
        | nil =>
            obtain ⟨rfl, rfl⟩ := List.cons.inj hs
            obtain rfl : more = [] := by
              simpa [isAnd, isTerminator, Segment.isKeyword] using hpushed
            have hfront : run segments = [] ++ a :: kept := hrun
            exact ⟨segments, [], rfl, led_of_run hfront (by simp) ha, by simp⟩

/-- Where a led empty group is kept, there was a led group with nothing but connectives in it. -/
theorem leavesGroup_of_run {segments top kept : List Segment} {a : Segment}
    (h : run segments = top ++ .paren ')' :: .paren '(' :: a :: kept) (ha : Leads a) :
    LeavesGroup segments := by
  induction segments using List.reverseRecOn generalizing top with
  | nil => exact absurd h (by simp [run])
  | append_singleton segments s ih =>
      rw [run_concat] at h
      obtain ⟨more, left, hrun, hmore, -, hcases⟩ := advance_cases (run segments) s
      have hbefore {front : List Segment}
          (hleft : left = front ++ .paren ')' :: .paren '(' :: a :: kept) :
          LeavesGroup (segments ++ [s]) := by
        have hfront : run segments = (more ++ front) ++ .paren ')' :: .paren '(' :: a :: kept := by
          rw [hrun, hleft, List.append_assoc]
        exact (ih hfront).concat s
      rcases hcases with ⟨-, -, hadvance⟩ | ⟨-, -, hadvance⟩
      · exact hbefore (hadvance.symm.trans h)
      · have hs := hadvance.symm.trans h
        cases top with
        | cons d top => exact hbefore (List.cons.inj hs).2
        | nil =>
            obtain ⟨rfl, rfl⟩ := List.cons.inj hs
            exact ⟨segments, [], rfl, opened_of_run hrun hmore ha⟩

/-! ### From the segments to what is kept -/

/-- Connectives are cut off in front of what is none. -/
theorem exists_of_append_eq {more left top kept : List Segment} {m : Segment}
    (h : more ++ left = top ++ m :: kept) (hmore : ∀ a ∈ more, isConnective a = true)
    (hm : isConnective m = false) :
    ∃ rest, left = rest ++ m :: kept ∧ top = more ++ rest := by
  rcases List.append_eq_append_iff.1 h with ⟨rest, htop, hleft⟩ | ⟨rest, hmoreEq, hkept⟩
  · exact ⟨rest, hleft, htop⟩
  · cases rest with
    | nil => exact ⟨[], hkept.symm, by rw [hmoreEq, List.append_nil, List.append_nil]⟩
    | cons d rest =>
        obtain ⟨rfl, -⟩ := List.cons.inj hkept
        rw [hmore m (by rw [hmoreEq]; simp)] at hm
        exact absurd hm (by simp)

/-- A last segment that is no connective is kept last. -/
theorem head?_run {segments : List Segment} {b : Segment} (h : segments.getLast? = some b)
    (hconnective : isConnective b = false) : (run segments).head? = some b := by
  obtain ⟨front, rfl⟩ := List.getLast?_eq_some_iff.1 h
  rw [run_concat]
  obtain ⟨more, left, -, -, -, ⟨hand, -⟩ | ⟨-, -, hadvance⟩⟩ := advance_cases (run front) b
  · exact absurd (hconnective.symm.trans (isConnective_of_isAnd hand)) (by simp)
  · rw [hadvance, List.head?_cons]

/-- An `AND` that fits behind what is kept is not refused. -/
theorem not_refusesAnd {more left : List Segment} {s : Segment} (hand : isAnd s = true)
    (hmore : ∀ a ∈ more, isAnd a = true) (hfits : Fits (more ++ left).head? s) :
    refusesAnd left.head? = false := by
  obtain ⟨hrefuses, hhead⟩ := (fits_iff_of_isAnd hand).1 hfits
  cases more with
  | nil => exact hrefuses
  | cons c more =>
      exact absurd ((hmore c List.mem_cons_self).symm.trans (hhead c rfl)) (by simp)

theorem run_of_led {segments : List Segment} (h : Led segments) :
    ∃ a kept, run segments = a :: kept ∧ Leads a ∧ Fits kept.head? a := by
  obtain ⟨before, a, between, rfl, ha, hfits, hbetween⟩ := h
  induction between using List.reverseRecOn with
  | nil =>
      rw [run_concat]
      obtain ⟨more, left, hrun, -, hmore, ⟨hand, hrefuses, -⟩ | ⟨hfits, -, hadvance⟩⟩ :=
        advance_cases (run before) a
      · obtain ⟨b, hb, hconnective, -⟩ := hfits.and_behind hand
        rw [Option.mem_def.1 hb, ← head?_run hb hconnective, hrun] at hfits
        exact absurd (hrefuses.symm.trans (not_refusesAnd hand (hmore hand) hfits)) (by simp)
      · exact ⟨a, left, hadvance, ha, hfits⟩
  | append_singleton between s ih =>
      obtain ⟨c, kept, hc, hleads, hbehind⟩ :=
        ih fun b hb => hbetween b (List.mem_append_left _ hb)
      have hs : isAnd s = true := hbetween s (by simp)
      rw [← List.cons_append, ← List.append_assoc, run_concat, hc]
      obtain ⟨more, left, hrun, -, hmore, ⟨-, hrefuses, hadvance⟩ | ⟨hfits, -, hadvance⟩⟩ :=
        advance_cases (c :: kept) s
      · cases more with
        | nil => exact ⟨c, kept, hadvance.trans hrun.symm, hleads, hbehind⟩
        | cons d more =>
            -- An `AND` that was kept last fits there, so the one that replaces it does.
            obtain ⟨rfl, rfl⟩ := List.cons.inj hrun
            exact absurd (hrefuses.symm.trans (not_refusesAnd (hmore hs c List.mem_cons_self)
              (fun b hb => hmore hs b (List.mem_cons_of_mem _ hb)) hbehind)) (by simp)
      · exact ⟨s, left, hadvance, leads_of_isConnective (isConnective_of_isAnd hs), hfits⟩

/-- What is no connective stays where it is, with what is below it. -/
theorem exists_of_advance {m : Segment} (hm : isConnective m = false) (top kept : List Segment)
    (s : Segment) :
    ∃ front, advance (top ++ m :: kept) s = front ++ m :: kept ∧
      ∀ a ∈ front, a = s ∨ a ∈ top := by
  obtain ⟨more, left, heq, hmore, -, hcases⟩ := advance_cases (top ++ m :: kept) s
  obtain ⟨rest, rfl, rfl⟩ := exists_of_append_eq heq.symm hmore hm
  have hrest : ∀ a ∈ rest, a ∈ more ++ rest := fun a ha => List.mem_append_right _ ha
  rcases hcases with ⟨-, -, hadvance⟩ | ⟨-, -, hadvance⟩
  · exact ⟨rest, hadvance, fun a ha => Or.inr (hrest a ha)⟩
  · exact ⟨s :: rest, hadvance, fun a ha => (List.mem_cons.1 ha).imp_right (hrest a)⟩

theorem run_of_opened {segments : List Segment} (h : Opened segments) :
    ∃ inside a kept, run segments = inside ++ .paren '(' :: a :: kept ∧
      (∀ s ∈ inside, isConnective s = true) ∧ Leads a := by
  obtain ⟨before, inside, rfl, hled, hinside⟩ := h
  induction inside using List.reverseRecOn with
  | nil =>
      obtain ⟨a, kept, hrun, ha, -⟩ := run_of_led hled
      exact ⟨[], a, kept, by rw [run_concat, hrun]; rfl, by simp, ha⟩
  | append_singleton inside s ih =>
      obtain ⟨top, a, kept, hrun, htop, ha⟩ :=
        ih fun b hb => hinside b (List.mem_append_left _ hb)
      obtain ⟨front, hadvance, hfront⟩ :=
        exists_of_advance (not_isConnective_paren '(') top (a :: kept) s
      refine ⟨front, a, kept, ?_, fun b hb => ?_, ha⟩
      · rw [← List.cons_append, ← List.append_assoc, run_concat, hrun, hadvance]
      · rcases hfront b hb with rfl | hb
        · exact hinside b (by simp)
        · exact htop b hb

theorem run_of_leavesGroup {segments : List Segment} (h : LeavesGroup segments) :
    ∃ top a kept, run segments = top ++ .paren ')' :: .paren '(' :: a :: kept ∧ Leads a := by
  obtain ⟨before, rest, rfl, hopened⟩ := h
  induction rest using List.reverseRecOn with
  | nil =>
      obtain ⟨inside, a, kept, hrun, hinside, ha⟩ := run_of_opened hopened
      refine ⟨[], a, kept, ?_, ha⟩
      have hclose : advance (run before) (.paren ')') =
          .paren ')' :: (run before).dropWhile isConnective := rfl
      rw [run_concat, hclose, hrun, List.dropWhile_append_of_pos hinside]
      rfl
  | append_singleton rest s ih =>
      obtain ⟨top, a, kept, hrun, ha⟩ := ih
      obtain ⟨front, hadvance, -⟩ :=
        exists_of_advance (not_isConnective_paren ')') top (.paren '(' :: a :: kept) s
      exact ⟨front, a, kept,
        by rw [← List.cons_append, ← List.append_assoc, run_concat, hrun, hadvance], ha⟩

/-- **An empty group is left behind a connective exactly if there was a led group with nothing but
connectives in it.** -/
theorem groupedRow_keptSegments_iff (segments : List Segment) :
    GroupedRow andWord (significant (keptSegments segments)) ∨
        GroupedRow whereWord (significant (keptSegments segments)) ↔
      LeavesGroup (significant segments) := by
  have hrows : GroupedRow andWord (significant (keptSegments segments)) ∨
        GroupedRow whereWord (significant (keptSegments segments)) ↔
      ∃ a, Leads a ∧ [a, .paren '(', .paren ')'] <:+: significant (keptSegments segments) := by
    constructor
    · rintro (⟨a, ha, hinfix⟩ | ⟨a, ha, hinfix⟩)
      · exact ⟨a, Or.inl ha, hinfix⟩
      · exact ⟨a, Or.inr ha, hinfix⟩
    · rintro ⟨a, ha | ha, hinfix⟩
      · exact Or.inl ⟨a, ha, hinfix⟩
      · exact Or.inr ⟨a, ha, hinfix⟩
  have hreverse (a : Segment) (l : List Segment) :
      [a, .paren '(', .paren ')'] <:+: l.reverse ↔ [.paren ')', .paren '(', a] <:+: l := by
    rw [← List.reverse_infix, List.reverse_reverse]
    rfl
  rw [hrows, significant_keptSegments]
  simp only [hreverse]
  constructor
  · rintro ⟨a, ha, hinfix⟩
    obtain ⟨top, kept, hrun⟩ := hinfix.trans (List.dropWhile_suffix _).isInfix
    have hgroup : run (significant segments) = top ++ .paren ')' :: .paren '(' :: a :: kept := by
      rw [← hrun]
      simp
    exact leavesGroup_of_run hgroup ha
  · intro h
    obtain ⟨top, a, kept, hrun, ha⟩ := run_of_leavesGroup h
    obtain ⟨rest, hrest, -⟩ := exists_of_append_eq
      (List.takeWhile_append_dropWhile.trans hrun) (fun b hb => List.mem_takeWhile_imp hb)
      (not_isConnective_paren ')')
    exact ⟨a, ha, rest, kept, by rw [hrest]; simp⟩

/-! ### The second cleanup -/

/-- A quoted run at the end is in no empty group. -/
theorem groupedRow_concat_quoted {word q : Text} {front : List Segment} :
    GroupedRow word (front ++ [.quoted q]) ↔ GroupedRow word front := by
  refine exists_congr fun a => and_congr_right fun _ => ⟨fun h => ?_, fun h => ?_⟩
  · rcases List.infix_concat_iff.1 h with hsuffix | hinfix
    · obtain ⟨before, hbefore⟩ := hsuffix
      have hlast := congrArg List.getLast? hbefore
      simp at hlast
    · exact hinfix
  · exact List.infix_concat_iff.2 (Or.inr h)

theorem groupedRow_trimLast {word : Text} {segments : List Segment} (h : Canonical segments) :
    GroupedRow word (significant (trimLast segments)) ↔ GroupedRow word (significant segments) := by
  rcases significant_trimLast h with hsame | ⟨front, q, -, -, hq, hlast⟩
  · rw [hsame]
  · rw [hq, hlast, groupedRow_concat_quoted, groupedRow_concat_quoted]

/-- Outside of quotes nothing has an empty group behind it, read off the segments. -/
theorem ungrouped_scan_iff {s : Text} :
    (∀ t ∈ stretches (Segment.scan s), Ungrouped t) ↔
      ¬ (GroupedRow andWord (significant (Segment.scan s)) ∨
        GroupedRow whereWord (significant (Segment.scan s))) := by
  have hand : Sound (.word andWord) := ⟨by decide, by decide⟩
  have hwhere : Sound (.word whereWord) := ⟨by decide, by decide⟩
  rw [← grouped_stretches_iff hand (Segment.canonical_scan s),
    ← grouped_stretches_iff hwhere (Segment.canonical_scan s), ← exists_or, not_exists]
  refine forall_congr' fun t => ?_
  rw [Ungrouped, ← and_or_left, not_and]

theorem sanitize_eq (s : Text) :
    sanitize s = trimConnectives (stripGroups (trimConnectives s)) := by
  unfold sanitize
  simp only
  split
  · next hsame => rw [hsame, trimConnectives_trimConnectives]
  · rfl

/-- The cleanup leaves a text without dangling connectives exactly if trimming emptied no group. -/
theorem tidy_trimConnectives_iff {s : Text} :
    Tidy (trimConnectives s) ↔ ¬ LeavesGroup (significant (Segment.scan s)) := by
  have hungrouped : (∀ t ∈ stretches (Segment.scan (trimConnectives s)), Ungrouped t) ↔
      ¬ LeavesGroup (significant (Segment.scan s)) := by
    have hcanonical := canonical_keptSegments s
    rw [ungrouped_scan_iff, scan_trimConnectives, groupedRow_trimLast hcanonical,
      groupedRow_trimLast hcanonical, groupedRow_keptSegments_iff]
  obtain ⟨hconnected, hclosed⟩ := normal_iff.1 (normal_trimConnectives s)
  rw [← hungrouped]
  exact ⟨fun h => h.ungrouped, fun h => ⟨Text.trim_trim _, hconnected, hclosed, h⟩⟩

/-- **The connectives of a cleaned text connect.  A second cleanup leaves it exactly if the last
trimming emptied no group behind a connective.** -/
theorem sanitize_sanitize_iff (s : Text) :
    sanitize s = trimConnectives (stripGroups (trimConnectives s)) ∧
      Text.trim (sanitize s) = sanitize s ∧
      Normal (significant (Segment.scan (sanitize s))) ∧
      (sanitize (sanitize s) = sanitize s ↔
        ¬ LeavesGroup (significant (Segment.scan (stripGroups (trimConnectives s))))) := by
  refine ⟨sanitize_eq s, ?_, ?_, ?_⟩
  · rw [sanitize_eq]
    exact Text.trim_trim _
  · rw [sanitize_eq]
    exact normal_trimConnectives _
  · rw [sanitize_eq_self_iff, sanitize_eq s, tidy_trimConnectives_iff]

/-- A group with a connective in it is empty only after the last trimming. -/
def hollowStatement : Text := "SELECT a FROM t WHERE (WHERE ())".toList

theorem sanitize_hollowStatement :
    sanitize hollowStatement = "SELECT a FROM t WHERE ()".toList ∧
      sanitize (sanitize hollowStatement) = "SELECT a FROM t".toList ∧
      sanitize (sanitize hollowStatement) ≠ sanitize hollowStatement := by decide +kernel

end Cleanup

end Pushdown
