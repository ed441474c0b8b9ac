/-
**Texts whose connectives all connect.**

The cleanup of connectives reads the segments of a text once and drops what dangles.  It is a
subsequence of the segments that is left, so the text stays exactly if no step drops anything, and
whether a step does is decided by the last segment in front of it that is no blank.

Main definitions:

* `Cleanup.significant` — the segments that are no blanks;
* `Cleanup.Fits` — a segment may stand behind another one;
* `Cleanup.Connected` — every segment may stand behind the one in front of it.

Main results:

* `Cleanup.step_eq_cons_iff` — when a step keeps everything;
* `Cleanup.foldl_step_eq_iff` — when a run keeps everything;
* `Cleanup.trimConnectives_eq_of_length` — a text that changes gets shorter;
* `Cleanup.trimConnectives_eq_self_iff` — **a text stays exactly if its connectives connect**.
-/

import Mathlib.Data.List.Flatten
import Pushdown.Cleanup.Connective
import Pushdown.Proofs.Cleanup.Segment

set_option autoImplicit false

namespace Pushdown

namespace Cleanup

/-! ### The end of what was kept -/

theorem lastSignificant?_cons (s : Segment) (kept : List Segment) :
    lastSignificant? (s :: kept) = if s.isSpace then lastSignificant? kept else some s := by
  unfold lastSignificant?
  cases h : s.isSpace <;> simp [h]

/-- Nothing dangles exactly if the last segment that is no blank does not. -/
theorem dropDangling?_eq_none_iff {dangles : Segment → Bool} {kept : List Segment} :
    dropDangling? dangles kept = none ↔ ∀ a ∈ lastSignificant? kept, dangles a = false := by
  induction kept with
  | nil => simp [dropDangling?, lastSignificant?]
  | cons s kept ih =>
      rw [lastSignificant?_cons, dropDangling?]
      cases hs : s.isSpace with
      | true => simpa using ih
      | false => cases hd : dangles s <;> simp [hd]

/-- What dangles is cut off in front of what does not dangle. -/
theorem dropDangling?_eq_some {dangles : Segment → Bool} {kept left : List Segment}
    (h : dropDangling? dangles kept = some left) :
    ∃ more s, kept = more ++ s :: left ∧ dangles s = true ∧ s.isSpace = false ∧
      (∀ a ∈ more, a.isSpace = true ∨ dangles a = true) ∧
      ∀ a ∈ lastSignificant? left, dangles a = false := by
  induction kept generalizing left with
  | nil => exact absurd h (by simp [dropDangling?])
  | cons s kept ih =>
      rw [dropDangling?] at h
      split at h
      · next hspace =>
          obtain ⟨more, t, rfl, hdangles, ht, hmore, hleft⟩ := ih h
          exact ⟨s :: more, t, rfl, hdangles, ht, List.forall_mem_cons.2 ⟨Or.inl hspace, hmore⟩,
            hleft⟩
      · next hspace =>
          split at h
          · next hs =>
              rw [← Option.some.inj h]
              cases hrest : dropDangling? dangles kept with
              | none =>
                  exact ⟨[], s, rfl, hs, by simpa using hspace, by simp,
                    dropDangling?_eq_none_iff.1 hrest⟩
              | some deeper =>
                  obtain ⟨more, t, rfl, hdangles, ht, hmore, hleft⟩ := ih hrest
                  exact ⟨s :: more, t, rfl, hdangles, ht,
                    List.forall_mem_cons.2 ⟨Or.inr hs, hmore⟩, hleft⟩
          · exact absurd h (by simp)

/-- What is left without dangling segments is a proper front. -/
theorem dropDangling?_suffix {dangles : Segment → Bool} {kept left : List Segment}
    (h : dropDangling? dangles kept = some left) :
    left <:+ kept ∧ left.length < kept.length := by
  obtain ⟨more, s, rfl, -⟩ := dropDangling?_eq_some h
  refine ⟨⟨more ++ [s], by simp⟩, ?_⟩
  simp only [List.length_append, List.length_cons]
  omega

theorem trimEnd_suffix (dangles : Segment → Bool) (kept : List Segment) :
    trimEnd dangles kept <:+ kept := by
  unfold trimEnd
  cases h : dropDangling? dangles kept with
  | none => exact List.suffix_refl kept
  | some left => exact (dropDangling?_suffix h).1

theorem trimEnd_eq_self_iff {dangles : Segment → Bool} {kept : List Segment} :
    trimEnd dangles kept = kept ↔ ∀ a ∈ lastSignificant? kept, dangles a = false := by
  rw [← dropDangling?_eq_none_iff, trimEnd]
  cases h : dropDangling? dangles kept with
  | none => simp
  | some left =>
      have hlt := (dropDangling?_suffix h).2
      simp only [Option.getD_some, reduceCtorEq, iff_false]
      intro heq
      rw [heq] at hlt
      exact absurd hlt (Nat.lt_irrefl _)

/-! ### One step -/

/-- A segment may stand behind another one, or at the front: an `AND` has a condition in front of
it, and a word that ends a condition or a closing parenthesis stands behind no connective. -/
structure Fits (before : Option Segment) (s : Segment) : Prop where
  and_behind : isAnd s = true → ∃ a ∈ before, isConnective a = false ∧ a ≠ .paren '('
  end_behind : isTerminator s = true ∨ s = .paren ')' → ∀ a ∈ before, isConnective a = false

/-- Only a word can be a keyword. -/
theorem eq_keyword_of_isKeyword {s : Segment} {word : Text} (h : s.isKeyword word = true) :
    ∃ w, s = .word w ∧ Text.toLower w = Text.toLower word := by
  cases s with
  | word w => exact ⟨w, rfl, by simpa [Segment.isKeyword, Text.eqIgnoreCase] using h⟩
  | space w => exact absurd h (by simp [Segment.isKeyword])
  | quoted w => exact absurd h (by simp [Segment.isKeyword])
  | paren c => exact absurd h (by simp [Segment.isKeyword])

/-- `AND` ends no condition. -/
theorem not_isTerminator_of_isAnd {s : Segment} (h : isAnd s = true) : isTerminator s = false := by
  obtain ⟨w, rfl, hw⟩ := eq_keyword_of_isKeyword h
  simp only [isTerminator, Segment.isKeyword, Text.eqIgnoreCase, hw]
  decide

theorem not_ends_of_isAnd {s : Segment} (h : isAnd s = true) :
    ¬ (isTerminator s = true ∨ s = .paren ')') := by
  rintro (hend | rfl)
  · rw [not_isTerminator_of_isAnd h] at hend
    exact absurd hend Bool.false_ne_true
  · exact absurd h (by decide)

/-- An `AND` may stand behind what does not refuse it and is no `AND`. -/
theorem fits_iff_of_isAnd {before : Option Segment} {s : Segment} (h : isAnd s = true) :
    Fits before s ↔ refusesAnd before = false ∧ ∀ a ∈ before, isAnd a = false := by
  constructor
  · intro hfits
    obtain ⟨a, ha, hconnective, hparen⟩ := hfits.and_behind h
    obtain rfl : before = some a := ha
    rw [isConnective, Bool.or_eq_false_iff] at hconnective
    refine ⟨?_, fun b hb => Option.some.inj hb ▸ hconnective.2⟩
    rw [refusesAnd, hconnective.1, Bool.or_false]
    simpa using hparen
  · rintro ⟨hrefuses, hbefore⟩
    refine ⟨fun _ => ?_, fun hend => absurd hend (not_ends_of_isAnd h)⟩
    cases before with
    | none => exact absurd hrefuses (by simp [refusesAnd])
    | some a =>
        rw [refusesAnd, Bool.or_eq_false_iff, decide_eq_false_iff_not] at hrefuses
        refine ⟨a, rfl, ?_, hrefuses.1⟩
        rw [isConnective, ← isAnd, hbefore a rfl, Bool.or_false]
        exact hrefuses.2

theorem step_sublist (kept : List Segment) (s : Segment) :
    List.Sublist (step kept s) (s :: kept) := by
  unfold step
  split
  · cases kept with
    | nil => exact List.nil_sublist _
    | cons last kept =>
        simp only
        split
        · exact List.sublist_cons_self _ _
        · exact List.Sublist.refl _
  · split
    · simp only
      split
      · exact (trimEnd_suffix isAnd kept).sublist.trans (List.sublist_cons_self _ _)
      · exact List.Sublist.cons_cons _ (trimEnd_suffix isAnd kept).sublist
    · split
      · exact List.Sublist.cons_cons _ (trimEnd_suffix isConnective kept).sublist
      · exact List.Sublist.refl _

/-- A blank stays behind something else than a blank. -/
theorem step_space_iff {kept : List Segment} {s : Segment} (hs : s.isSpace = true) :
    step kept s = s :: kept ↔ ∃ last ∈ kept.head?, last.isSpace = false := by
  unfold step
  rw [if_pos hs]
  cases kept with
  | nil => simp
  | cons last kept => cases h : last.isSpace <;> simp [h]

/-- A segment that is no blank stays if it fits behind the last one that is none. -/
theorem step_eq_cons_iff {kept : List Segment} {s : Segment} (hs : s.isSpace = false) :
    step kept s = s :: kept ↔ Fits (lastSignificant? kept) s := by
  unfold step
  rw [if_neg (by simp [hs])]
  by_cases hand : isAnd s = true
  · rw [if_pos hand, fits_iff_of_isAnd hand, ← trimEnd_eq_self_iff]
    constructor
    · intro h
      have htrim : trimEnd isAnd kept = kept := by
        refine (trimEnd_suffix isAnd kept).eq_of_length_le ?_
        have hlength := congrArg List.length h
        simp only at hlength
        split at hlength
        · simp only [List.length_cons] at hlength
          omega
        · simp only [List.length_cons] at hlength
          omega
      simp only [htrim] at h
      split at h
      · exact absurd (congrArg List.length h) (by simp)
      · next hrefuses => exact ⟨by simpa using hrefuses, htrim⟩
    · rintro ⟨hrefuses, htrim⟩
      simp [htrim, hrefuses]
  · rw [if_neg hand]
    by_cases hend : isTerminator s = true ∨ s = .paren ')'
    · rw [if_pos (by simpa using hend)]
      constructor
      · intro h
        have htrim := trimEnd_eq_self_iff.1 (List.cons.inj h).2
        exact ⟨fun h => absurd h hand, fun _ => htrim⟩
      · rintro ⟨-, hbehind⟩
        rw [trimEnd_eq_self_iff.2 (hbehind hend)]
    · rw [if_neg (by simpa using hend)]
      exact ⟨fun _ => ⟨fun h => absurd h hand, fun h => absurd h hend⟩, fun _ => rfl⟩

/-! ### A run -/

/-- The segments that are no blanks. -/
def significant (segments : List Segment) : List Segment := segments.filter fun s => !s.isSpace

theorem significant_cons_of_isSpace {s : Segment} (h : s.isSpace = true) (segments : List Segment) :
    significant (s :: segments) = significant segments := by simp [significant, h]

theorem significant_cons {s : Segment} (h : s.isSpace = false) (segments : List Segment) :
    significant (s :: segments) = s :: significant segments := by simp [significant, h]

theorem significant_reverse (segments : List Segment) :
    significant segments.reverse = (significant segments).reverse := List.filter_reverse

/-- Every segment may stand behind the one in front of it. -/
def Connected : Option Segment → List Segment → Prop
  | _, [] => True
  | before, s :: rest => Fits before s ∧ Connected (some s) rest

/-- No run of blanks stands at the front or behind another one. -/
def Separated : Option Segment → List Segment → Prop
  | _, [] => True
  | before, s :: rest =>
      (s.isSpace = true → ∃ last ∈ before, last.isSpace = false) ∧ Separated (some s) rest

theorem foldl_step_sublist (segments kept : List Segment) :
    List.Sublist (segments.foldl step kept) (segments.reverse ++ kept) := by
  induction segments generalizing kept with
  | nil => exact List.Sublist.refl _
  | cons s segments ih =>
      rw [List.foldl_cons, List.reverse_cons, List.append_assoc, List.singleton_append]
      exact (ih _).trans ((List.Sublist.refl _).append (step_sublist kept s))

/-- A run keeps everything exactly if each of its steps does. -/
theorem foldl_step_eq_iff (segments kept : List Segment) :
    segments.foldl step kept = segments.reverse ++ kept ↔
      Separated kept.head? segments ∧
        Connected (lastSignificant? kept) (significant segments) := by
  induction segments generalizing kept with
  | nil => simp [Separated, Connected, significant]
  | cons s segments ih =>
      have hstep : (s :: segments).foldl step kept = (s :: segments).reverse ++ kept ↔
          step kept s = s :: kept ∧
            segments.foldl step (s :: kept) = segments.reverse ++ s :: kept := by
        rw [List.foldl_cons, List.reverse_cons, List.append_assoc, List.singleton_append]
        constructor
        · intro h
          have hlength := congrArg List.length h
          have hrun := (foldl_step_sublist segments (step kept s)).length_le
          simp only [List.length_append, List.length_reverse, List.length_cons] at hlength hrun
          have hone : step kept s = s :: kept := by
            refine (step_sublist kept s).eq_of_length_le ?_
            simp only [List.length_cons]
            omega
          exact ⟨hone, hone ▸ h⟩
        · rintro ⟨hone, h⟩
          rw [hone, h]
      rw [hstep, ih (s :: kept), lastSignificant?_cons, List.head?_cons, Separated]
      cases hs : s.isSpace with
      | true =>
          rw [step_space_iff hs]
          simp [significant, hs, and_assoc]
      | false =>
          rw [step_eq_cons_iff hs]
          simp [significant, hs, Connected, and_left_comm]

/-- Segments that do not reach into each other are separated behind any segment, if the first one is
no run of blanks. -/
theorem separated_of_isChain {segments : List Segment} (hchain : segments.IsChain Segment.Meets)
    {before : Option Segment}
    (hhead : ∀ a ∈ segments.head?, a.isSpace = true → ∃ last ∈ before, last.isSpace = false) :
    Separated before segments := by
  induction segments generalizing before with
  | nil => trivial
  | cons s segments ih =>
      obtain ⟨hmeets, htail⟩ := List.isChain_cons.1 hchain
      refine ⟨hhead s rfl, ih htail fun b hb hspace => ⟨s, rfl, ?_⟩⟩
      obtain ⟨u, rfl⟩ := Segment.isSpace_iff.1 hspace
      rw [← Bool.not_eq_true, Segment.isSpace_iff]
      rintro ⟨t, rfl⟩
      exact hmeets _ hb u rfl

/-- A text that does not start with a blank does not start with a run of blanks. -/
theorem not_isSpace_of_head {s : Text} (h : ∀ c ∈ s.head?, Text.isBlank c = false) :
    ∀ a ∈ (Segment.scan s).head?, a.isSpace = false := by
  intro a ha
  obtain ⟨rest, hrest⟩ := List.head?_eq_some_iff.1 ha
  obtain ⟨c, hhead, hblank, -, -⟩ :=
    Segment.head?_text (Segment.sound_of_mem_scan (List.mem_of_mem_head? ha))
  have hc : s.head? = some c := by
    rw [← Segment.flatMap_text_scan s, hrest, List.flatMap_cons, List.head?_append, hhead,
      Option.some_or]
  rw [← Bool.not_eq_true, Segment.isSpace_iff, ← hblank, h c hc]
  exact Bool.false_ne_true

theorem separated_scan {s : Text} (h : ∀ c ∈ s.head?, Text.isBlank c = false) :
    Separated none (Segment.scan s) :=
  separated_of_isChain (Segment.canonical_scan s).chain fun a ha hspace => by
    rw [not_isSpace_of_head h a ha] at hspace
    exact absurd hspace Bool.false_ne_true

theorem lastSignificant?_reverse (segments : List Segment) :
    lastSignificant? segments.reverse = (significant segments).getLast? := by
  rw [lastSignificant?, ← List.head?_filter, ← significant, significant_reverse, List.head?_reverse]

theorem keptSegments_sublist (segments : List Segment) :
    List.Sublist (keptSegments segments) segments := by
  have h := (trimEnd_suffix isConnective _).sublist.trans (foldl_step_sublist segments [])
  rw [List.append_nil] at h
  have hreverse := List.reverse_sublist.2 h
  rwa [List.reverse_reverse] at hreverse

/-- All segments are kept exactly if they connect and none dangles at the end. -/
theorem keptSegments_eq_self_iff {segments : List Segment} (h : Separated none segments) :
    keptSegments segments = segments ↔
      Connected none (significant segments) ∧
        ∀ a ∈ (significant segments).getLast?, isConnective a = false := by
  have hrun := foldl_step_eq_iff segments []
  rw [List.append_nil] at hrun
  rw [← lastSignificant?_reverse]
  constructor
  · intro hkept
    have hreverse : trimEnd isConnective (segments.foldl step []) = segments.reverse := by
      rw [← List.reverse_reverse (trimEnd _ _)]
      exact congrArg List.reverse hkept
    have hfold : segments.foldl step [] = segments.reverse := by
      have hsub := foldl_step_sublist segments []
      rw [List.append_nil] at hsub
      refine hsub.eq_of_length_le ?_
      rw [← hreverse]
      exact (trimEnd_suffix _ _).length_le
    rw [hfold] at hreverse
    exact ⟨(hrun.1 hfold).2, trimEnd_eq_self_iff.1 hreverse⟩
  · rintro ⟨hconnected, hlast⟩
    rw [keptSegments, hrun.2 ⟨h, hconnected⟩, trimEnd_eq_self_iff.2 hlast, List.reverse_reverse]

/-- Fewer segments make a shorter text. -/
theorem eq_of_length_text {kept segments : List Segment} (h : List.Sublist kept segments)
    (hne : ∀ a ∈ segments, a.text ≠ [])
    (hlength : (segments.flatMap Segment.text).length ≤ (kept.flatMap Segment.text).length) :
    kept = segments := by
  induction h with
  | slnil => rfl
  | @cons kept segments a hsub ih =>
      have hpos := List.length_pos_iff.2 (hne a List.mem_cons_self)
      have hle := (hsub.flatMap Segment.text).length_le
      rw [List.flatMap_cons, List.length_append] at hlength
      omega
  | @cons_cons kept segments a hsub ih =>
      rw [List.flatMap_cons, List.flatMap_cons, List.length_append, List.length_append] at hlength
      rw [ih (fun b hb => hne b (List.mem_cons_of_mem _ hb)) (by omega)]

theorem length_trim_le (s : Text) : (Text.trim s).length ≤ s.length :=
  (Text.trim_isInfix s).length_le

theorem length_trimConnectives_le (s : Text) : (trimConnectives s).length ≤ s.length := by
  have h := ((keptSegments_sublist (Segment.scan s)).flatMap Segment.text).length_le
  rw [Segment.flatMap_text_scan] at h
  exact Nat.le_trans (length_trim_le _) h

/-- All segments are kept if the text does not get shorter. -/
theorem keptSegments_of_length {s : Text} (h : s.length ≤ (trimConnectives s).length) :
    keptSegments (Segment.scan s) = Segment.scan s := by
  refine eq_of_length_text (keptSegments_sublist _)
    (fun a ha => Segment.text_ne_nil_of_sound (Segment.sound_of_mem_scan ha)) ?_
  rw [Segment.flatMap_text_scan]
  exact Nat.le_trans h (length_trim_le _)

/-- A text that changes gets shorter. -/
theorem trimConnectives_eq_of_length {s : Text} (h : s.length ≤ (trimConnectives s).length) :
    trimConnectives s = s := by
  have hkept := keptSegments_of_length h
  rw [trimConnectives, hkept, Segment.flatMap_text_scan] at h ⊢
  exact (Text.trim_isInfix s).eq_of_length_le h

/-- **A text without blanks at its ends stays exactly if its connectives connect.** -/
theorem trimConnectives_eq_self_iff {s : Text} :
    trimConnectives s = s ↔ Text.trim s = s ∧
      Connected none (significant (Segment.scan s)) ∧
        ∀ a ∈ (significant (Segment.scan s)).getLast?, isConnective a = false := by
  constructor
  · intro h
    have hkept := keptSegments_of_length (Nat.le_of_eq (congrArg List.length h.symm))
    have htrim : Text.trim s = s := by
      rwa [trimConnectives, hkept, Segment.flatMap_text_scan] at h
    have hseparated := separated_scan (Text.trim_eq_self_iff.1 htrim).1
    exact ⟨htrim, (keptSegments_eq_self_iff hseparated).1 hkept⟩
  · rintro ⟨htrim, hconnected⟩
    have hseparated := separated_scan (Text.trim_eq_self_iff.1 htrim).1
    rw [trimConnectives, (keptSegments_eq_self_iff hseparated).2 hconnected,
      Segment.flatMap_text_scan, htrim]

end Cleanup

end Pushdown
