/-
**What is left without dangling connectives.**

The cleanup keeps the segments of a text on a stack and cuts connectives off its end before it puts
the next segment there.  What is kept at any time is made of segments of the text that do not reach
into each other, and each of them may stand behind the one in front of it: behind a cut stands
something that did not reach into a word, so it reaches into nothing that comes there.  The text
that is left is therefore cut into what was kept, with two exceptions at its end, which is trimmed:
a last run of blanks goes, and a quoted run that the text leaves open loses the blanks it ends in.

Main definitions:

* `Cleanup.Cut` — connectives at the end are cut off;
* `Cleanup.Kept` — what is kept at any time;
* `Cleanup.Normal` — segments whose connectives connect;
* `Cleanup.trimLast` — the segments of a text that is trimmed at its end.

Main results:

* `Cleanup.step_cases` — what one segment does;
* `Cleanup.Kept.step`, `Cleanup.kept_foldl` — the invariant, for one segment and for a run;
* `Cleanup.scan_trimConnectives` — **the text that is left is cut into what was kept**;
* `Cleanup.trimConnectives_normal` — **its connectives connect, and a text whose connectives connect
  stays**;
* `Cleanup.trimConnectives_keeps` — **connectives are all that is deleted**.
-/

import Pushdown.Proofs.Cleanup.Connective

set_option autoImplicit false

namespace Pushdown

namespace Cleanup

open Segment (Meets Sound Canonical)

/-! ### One step -/

/-- What is left of kept segments, given last first, when connectives and the blanks around them are
cut off the end. -/
def Cut (kept left : List Segment) : Prop :=
  left = kept ∨ ∃ more s, kept = more ++ s :: left ∧ isConnective s = true ∧ s.isSpace = false ∧
    ∀ a ∈ more, a.isSpace = true ∨ isConnective a = true

theorem Cut.suffix {kept left : List Segment} (h : Cut kept left) : left <:+ kept := by
  rcases h with rfl | ⟨more, s, rfl, -⟩
  · exact List.suffix_refl _
  · exact ⟨more ++ [s], by simp⟩

theorem isConnective_of_isAnd {s : Segment} (h : isAnd s = true) : isConnective s = true := by
  rw [isConnective, ← isAnd, h, Bool.or_true]

/-- Trimming the end cuts connectives off, and what is left ends in something else. -/
theorem cut_trimEnd {dangles : Segment → Bool} (h : ∀ a, dangles a = true → isConnective a = true)
    (kept : List Segment) :
    Cut kept (trimEnd dangles kept) ∧
      ∀ a ∈ lastSignificant? (trimEnd dangles kept), dangles a = false := by
  unfold trimEnd
  cases hdrop : dropDangling? dangles kept with
  | none => exact ⟨Or.inl rfl, dropDangling?_eq_none_iff.1 hdrop⟩
  | some left =>
      obtain ⟨more, s, hkept, hs, hspace, hmore, hleft⟩ := dropDangling?_eq_some hdrop
      exact ⟨Or.inr ⟨more, s, hkept, h s hs, hspace, fun a ha => (hmore a ha).imp_right (h a)⟩,
        hleft⟩

/-- What a step does: a blank stays behind something else, an `AND` that connects nothing goes, and
anything else goes behind what is left without the connectives that it makes dangle. -/
theorem step_cases (kept : List Segment) (s : Segment) :
    (s.isSpace = true ∧ step kept s = kept ∧ ∀ last ∈ kept.head?, last.isSpace = true) ∨
    (s.isSpace = true ∧ step kept s = s :: kept ∧ ∃ last ∈ kept.head?, last.isSpace = false) ∨
    (isAnd s = true ∧ Cut kept (step kept s) ∧
      refusesAnd (lastSignificant? (step kept s)) = true) ∨
    (s.isSpace = false ∧ ∃ left, Cut kept left ∧ step kept s = s :: left ∧
      Fits (lastSignificant? left) s ∧ ∀ t, s = .quoted t → left = kept) := by
  unfold step
  by_cases hspace : s.isSpace = true
  · rw [if_pos hspace]
    cases kept with
    | nil => exact Or.inl ⟨hspace, rfl, by simp⟩
    | cons last kept =>
        cases hlast : last.isSpace with
        | true => exact Or.inl ⟨hspace, by simp [hlast], by simp [hlast]⟩
        | false => exact Or.inr (Or.inl ⟨hspace, by simp [hlast], last, rfl, hlast⟩)
  · rw [if_neg hspace]
    rw [Bool.not_eq_true] at hspace
    by_cases hand : isAnd s = true
    · rw [if_pos hand]
      obtain ⟨hcut, hlast⟩ := cut_trimEnd (fun _ => isConnective_of_isAnd) kept
      cases hrefuses : refusesAnd (lastSignificant? (trimEnd isAnd kept)) with
      | true => exact Or.inr (Or.inr (Or.inl ⟨hand, by simpa [hrefuses] using hcut, by
          simp [hrefuses]⟩))
      | false =>
          refine Or.inr (Or.inr (Or.inr ⟨hspace, _, hcut, by simp [hrefuses],
            (fits_iff_of_isAnd hand).2 ⟨hrefuses, hlast⟩, ?_⟩))
          rintro t rfl
          exact absurd hand (by simp [isAnd, Segment.isKeyword])
    · rw [if_neg hand]
      by_cases hend : isTerminator s = true ∨ s = .paren ')'
      · rw [if_pos (by simpa using hend)]
        obtain ⟨hcut, hlast⟩ := cut_trimEnd (fun _ => id) kept
        refine Or.inr (Or.inr (Or.inr ⟨hspace, _, hcut, rfl,
          ⟨fun h => absurd h hand, fun _ => hlast⟩, ?_⟩))
        rintro t rfl
        exact absurd hend (by simp [isTerminator, Segment.isKeyword])
      · rw [if_neg (by simpa using hend)]
        exact Or.inr (Or.inr (Or.inr ⟨hspace, kept, Or.inl rfl, rfl,
          ⟨fun h => absurd h hand, fun h => absurd h hend⟩, fun _ _ => rfl⟩))

/-! ### What is kept at any time -/

/-- Segments that are kept, given last first. -/
structure Kept (kept : List Segment) : Prop where
  /-- They are segments of a text, -/
  sound : ∀ a ∈ kept, a.Sound
  /-- none reaches into the one behind it, -/
  chain : kept.IsChain fun b a => a.Meets b
  /-- no run of blanks is first, -/
  first : ∀ a ∈ kept.getLast?, a.isSpace = false
  /-- every segment fits behind the one in front of it -/
  fits : (significant kept).IsChain fun b a => Fits (some a) b
  /-- or at the front. -/
  fits_first : ∀ a ∈ (significant kept).getLast?, Fits none a

theorem kept_nil : Kept [] where
  sound := by simp
  chain := List.IsChain.nil
  first := by simp
  fits := List.IsChain.nil
  fits_first := by simp [significant]

theorem Kept.of_suffix {kept left : List Segment} (h : Kept kept) (hleft : left <:+ kept) :
    Kept left := by
  have hlast {α : Type} {l m : List α} {a : α} (hl : l <:+ m) (ha : a ∈ l.getLast?) :
      a ∈ m.getLast? := by
    obtain ⟨front, rfl⟩ := hl
    rw [List.getLast?_append, Option.mem_def.1 ha]
    rfl
  have hsignificant : significant left <:+ significant kept := hleft.filter _
  exact
    { sound := fun a ha => h.sound a (hleft.mem ha)
      chain := h.chain.suffix hleft
      first := fun a ha => h.first a (hlast hleft ha)
      fits := h.fits.suffix hsignificant
      fits_first := fun a ha => h.fits_first a (hlast hsignificant ha) }

theorem lastSignificant?_eq_head? (kept : List Segment) :
    lastSignificant? kept = (significant kept).head? := by
  rw [lastSignificant?, significant, List.head?_filter]

theorem forall_getLast?_cons {p : Segment → Prop} {s : Segment} {l : List Segment}
    (hl : ∀ a ∈ l.getLast?, p a) (hs : l = [] → p s) : ∀ a ∈ (s :: l).getLast?, p a := by
  cases l with
  | nil => simpa using hs rfl
  | cons b l => rwa [List.getLast?_cons_cons]

/-- A segment goes behind kept ones that do not reach into it and behind which it fits. -/
theorem Kept.cons {kept : List Segment} (h : Kept kept) {s : Segment} (hsound : s.Sound)
    (hspace : s.isSpace = false) (hmeets : ∀ a ∈ kept.head?, a.Meets s)
    (hfits : Fits (lastSignificant? kept) s) : Kept (s :: kept) := by
  have hsignificant := significant_cons hspace kept
  rw [lastSignificant?_eq_head?] at hfits
  refine ⟨List.forall_mem_cons.2 ⟨hsound, h.sound⟩, List.isChain_cons.2 ⟨hmeets, h.chain⟩,
    forall_getLast?_cons h.first fun _ => hspace, ?_, ?_⟩
  · rw [hsignificant]
    refine List.isChain_cons.2 ⟨fun a ha => ?_, h.fits⟩
    rwa [Option.mem_def.1 ha] at hfits
  · rw [hsignificant]
    refine forall_getLast?_cons h.fits_first fun hnil => ?_
    rwa [hnil] at hfits

/-- A run of blanks goes behind kept segments that end in something else. -/
theorem Kept.cons_space {kept : List Segment} (h : Kept kept) {s : Segment} (hsound : s.Sound)
    (hspace : s.isSpace = true) (hmeets : ∀ a ∈ kept.head?, a.Meets s) (hne : kept ≠ []) :
    Kept (s :: kept) := by
  have hsignificant := significant_cons_of_isSpace hspace kept
  refine ⟨List.forall_mem_cons.2 ⟨hsound, h.sound⟩, List.isChain_cons.2 ⟨hmeets, h.chain⟩,
    forall_getLast?_cons h.first fun hnil => absurd hnil hne, ?_, ?_⟩
  · rw [hsignificant]
    exact h.fits
  · rw [hsignificant]
    exact h.fits_first

/-- Neither reaches into the other, or they are two runs of blanks: a blank segment that comes
behind another one is not kept. -/
def MeetsOrBlank (a s : Segment) : Prop := a.Meets s ∨ a.isSpace = true ∧ s.isSpace = true

/-- What does not reach into a word reaches into no parenthesis and into no blank. -/
theorem meets_of_meets_word {a s : Segment} {w : Text} (h : a.Meets (.word w))
    (hspace : s.isSpace = false) (hquoted : ∀ t, s ≠ .quoted t) : a.Meets s := by
  cases a with
  | space t =>
      rintro u rfl
      exact absurd hspace (by simp [Segment.isSpace])
  | quoted t => exact ⟨h.1, fun u hu => absurd hu (hquoted u)⟩
  | paren c => trivial
  | word t => exact absurd rfl (h w)

theorem eq_word_of_isConnective {s : Segment} (h : isConnective s = true) : ∃ w, s = .word w := by
  rcases Bool.or_eq_true _ _ ▸ h with h | h
  · obtain ⟨w, hw, -⟩ := eq_keyword_of_isKeyword h
    exact ⟨w, hw⟩
  · obtain ⟨w, hw, -⟩ := eq_keyword_of_isKeyword h
    exact ⟨w, hw⟩

/-- Behind a cut stands something that did not reach into a word, so it reaches into nothing that
is kept there. -/
theorem Cut.meets {kept left : List Segment} (hcut : Cut kept left) (h : Kept kept) {s : Segment}
    (hspace : s.isSpace = false) (hquoted : ∀ t, s = .quoted t → left = kept)
    (hmeets : ∀ a ∈ kept.head?, MeetsOrBlank a s) : ∀ a ∈ left.head?, a.Meets s := by
  have hsame : left = kept → ∀ a ∈ left.head?, a.Meets s := by
    rintro rfl a ha
    refine (hmeets a ha).resolve_right fun hblank => ?_
    rw [hspace] at hblank
    exact absurd hblank.2 Bool.false_ne_true
  rcases hcut with hsimple | ⟨more, w, hkept, hw, -, -⟩
  · exact hsame hsimple
  · obtain ⟨w, rfl⟩ := eq_word_of_isConnective hw
    by_cases hq : ∃ t, s = .quoted t
    · obtain ⟨t, ht⟩ := hq
      exact hsame (hquoted t ht)
    · have hchain : (.word w :: left : List Segment).IsChain fun b a => a.Meets b :=
        h.chain.suffix ⟨more, hkept.symm⟩
      intro a ha
      exact meets_of_meets_word ((List.isChain_cons.1 hchain).1 a ha) hspace
        fun t ht => hq ⟨t, ht⟩

theorem Kept.step {kept : List Segment} (h : Kept kept) {s : Segment} (hsound : s.Sound)
    (hmeets : ∀ a ∈ kept.head?, MeetsOrBlank a s) : Kept (step kept s) := by
  rcases step_cases kept s with ⟨-, hstep, -⟩ | ⟨hspace, hstep, last, hlast, hother⟩ |
    ⟨-, hcut, -⟩ | ⟨hspace, left, hcut, hstep, hfits, hquoted⟩
  · rwa [hstep]
  · rw [hstep]
    refine h.cons_space hsound hspace (fun a ha => ?_) (by rintro rfl; simp at hlast)
    refine (hmeets a ha).resolve_right fun hblank => ?_
    obtain rfl : a = last := Option.some.inj ((Option.mem_def.1 ha).symm.trans hlast)
    rw [hother] at hblank
    exact absurd hblank.1 Bool.false_ne_true
  · exact h.of_suffix hcut.suffix
  · rw [hstep]
    exact (h.of_suffix hcut.suffix).cons hsound hspace (hcut.meets h hspace hquoted hmeets) hfits

/-- What is kept does not reach into the next segment either. -/
theorem meets_step {kept : List Segment} {s t : Segment} (hst : s.Meets t) :
    ∀ a ∈ (step kept s).head?, MeetsOrBlank a t := by
  intro a ha
  rcases step_cases kept s with ⟨hspace, hstep, hlast⟩ | ⟨-, hstep, -⟩ | ⟨hand, -, hrefuses⟩ |
    ⟨-, left, -, hstep, -⟩
  · obtain ⟨u, rfl⟩ := Segment.isSpace_iff.1 hspace
    rw [hstep] at ha
    obtain ⟨v, rfl⟩ := Segment.isSpace_iff.1 (hlast a ha)
    exact Or.inl hst
  · rw [hstep] at ha
    exact Or.inl (Option.some.inj ha ▸ hst)
  · obtain ⟨w, rfl⟩ := eq_word_of_isConnective (isConnective_of_isAnd hand)
    by_cases hspace : a.isSpace = true
    · by_cases ht : t.isSpace = true
      · exact Or.inr ⟨hspace, ht⟩
      · obtain ⟨v, rfl⟩ := Segment.isSpace_iff.1 hspace
        exact Or.inl fun u hu => ht (Segment.isSpace_iff.2 ⟨u, hu⟩)
    · rw [Bool.not_eq_true] at hspace
      obtain ⟨left, hleft⟩ := List.head?_eq_some_iff.1 ha
      rw [hleft, lastSignificant?_cons, if_neg (by simp [hspace]), refusesAnd, Bool.or_eq_true,
        decide_eq_true_eq] at hrefuses
      rcases hrefuses with rfl | hwhere
      · exact Or.inl trivial
      · obtain ⟨v, rfl, -⟩ := eq_keyword_of_isKeyword hwhere
        exact Or.inl hst
  · rw [hstep] at ha
    exact Or.inl (Option.some.inj ha ▸ hst)

/-! ### A run -/

theorem kept_foldl {segments kept : List Segment} (hsegments : Canonical segments) (h : Kept kept)
    (hmeets : ∀ s ∈ segments.head?, ∀ a ∈ kept.head?, MeetsOrBlank a s) :
    Kept (segments.foldl step kept) := by
  induction segments generalizing kept with
  | nil => exact h
  | cons s segments ih =>
      obtain ⟨hnext, htail⟩ := List.isChain_cons.1 hsegments.chain
      exact ih ⟨fun a ha => hsegments.sound a (List.mem_cons_of_mem _ ha), htail⟩
        (h.step (hsegments.sound s List.mem_cons_self) (hmeets s rfl))
        fun t ht => meets_step (hnext t ht)

/-- A segment that is neither blank nor a connective. -/
def isContent (a : Segment) : Bool := !isConnective a && !a.isSpace

theorem Cut.filter_isContent {kept left : List Segment} (h : Cut kept left) :
    left.filter isContent = kept.filter isContent := by
  rcases h with rfl | ⟨more, s, rfl, hs, -, hmore⟩
  · rfl
  · have hnone : more.filter isContent = [] := by
      refine List.filter_eq_nil_iff.2 fun a ha => ?_
      rcases hmore a ha with h | h <;> simp [isContent, h]
    simp [hnone, isContent, hs]

/-- A step drops blanks and connectives only. -/
theorem filter_isContent_step (kept : List Segment) (s : Segment) :
    (step kept s).filter isContent = (s :: kept).filter isContent := by
  rcases step_cases kept s with ⟨hspace, hstep, -⟩ | ⟨-, hstep, -⟩ | ⟨hand, hcut, -⟩ |
    ⟨-, left, hcut, hstep, -⟩
  · simp [hstep, isContent, hspace]
  · rw [hstep]
  · rw [hcut.filter_isContent]
    simp [isContent, isConnective_of_isAnd hand]
  · rw [hstep, List.filter_cons, List.filter_cons, hcut.filter_isContent]

theorem filter_isContent_foldl (segments kept : List Segment) :
    (segments.foldl step kept).filter isContent =
      (segments.reverse ++ kept).filter isContent := by
  induction segments generalizing kept with
  | nil => rfl
  | cons s segments ih =>
      rw [List.foldl_cons, ih, List.filter_append, filter_isContent_step, List.reverse_cons,
        List.append_assoc, List.singleton_append, List.filter_append]

/-- What is kept of the segments of a text, last first. -/
def stack (s : Text) : List Segment := trimEnd isConnective ((Segment.scan s).foldl step [])

theorem keptSegments_scan (s : Text) : keptSegments (Segment.scan s) = (stack s).reverse := rfl

theorem kept_stack (s : Text) : Kept (stack s) :=
  (kept_foldl (Segment.canonical_scan s) kept_nil (by simp)).of_suffix
    (cut_trimEnd (fun _ => id) _).1.suffix

theorem canonical_keptSegments (s : Text) : Canonical (keptSegments (Segment.scan s)) :=
  ⟨fun a ha => (kept_stack s).sound a (List.mem_reverse.1 ha),
    List.isChain_reverse.2 (kept_stack s).chain⟩

theorem filter_isContent_keptSegments (segments : List Segment) :
    (keptSegments segments).filter isContent = segments.filter isContent := by
  rw [keptSegments, List.filter_reverse, (cut_trimEnd (fun _ => id) _).1.filter_isContent,
    filter_isContent_foldl, List.append_nil, List.filter_reverse, List.reverse_reverse]

/-! ### Connectives that connect -/

/-- No `AND` is first or stands behind an opening parenthesis or a connective, and no connective is
last or stands in front of a closing parenthesis or of a word that ends a condition. -/
structure Normal (segments : List Segment) : Prop where
  first : ∀ a ∈ segments.head?, isAnd a = false
  neighbours : segments.IsChain fun a b =>
    (isAnd b = true → a ≠ .paren '(' ∧ isConnective a = false) ∧
      (isConnective a = true → b ≠ .paren ')' ∧ isTerminator b = false)
  last : ∀ a ∈ segments.getLast?, isConnective a = false

theorem fits_none_iff {s : Segment} : Fits none s ↔ isAnd s = false := by
  constructor
  · intro h
    rw [← Bool.not_eq_true]
    intro hand
    obtain ⟨a, ha, -⟩ := h.and_behind hand
    exact absurd ha (by simp)
  · intro h
    exact ⟨fun hand => absurd (h.symm.trans hand) Bool.false_ne_true,
      fun _ a ha => absurd ha (by simp)⟩

theorem fits_some_iff {a s : Segment} : Fits (some a) s ↔
    (isAnd s = true → a ≠ .paren '(' ∧ isConnective a = false) ∧
      (isConnective a = true → s ≠ .paren ')' ∧ isTerminator s = false) := by
  constructor
  · intro h
    refine ⟨fun hand => ?_, fun hconnective => ?_⟩
    · obtain ⟨b, hb, hconnective, hparen⟩ := h.and_behind hand
      obtain rfl : a = b := Option.some.inj hb
      exact ⟨hparen, hconnective⟩
    · have hend : ¬ (isTerminator s = true ∨ s = .paren ')') := by
        intro hend
        rw [h.end_behind hend a rfl] at hconnective
        exact absurd hconnective Bool.false_ne_true
      rw [not_or, Bool.not_eq_true] at hend
      exact hend.symm
  · rintro ⟨hand, hend⟩
    refine ⟨fun h => ⟨a, rfl, (hand h).2, (hand h).1⟩, fun h b hb => ?_⟩
    obtain rfl : a = b := Option.some.inj hb
    rw [← Bool.not_eq_true]
    intro hconnective
    obtain ⟨hparen, hterminator⟩ := hend hconnective
    rcases h with h | h
    · rw [hterminator] at h
      exact absurd h Bool.false_ne_true
    · exact hparen h

theorem connected_iff {before : Option Segment} {segments : List Segment} :
    Connected before segments ↔ (∀ a ∈ segments.head?, Fits before a) ∧
      segments.IsChain fun a b => Fits (some a) b := by
  induction segments generalizing before with
  | nil => simp [Connected]
  | cons s segments ih =>
      rw [Connected, ih, List.isChain_cons]
      simp

theorem normal_iff {segments : List Segment} :
    Normal segments ↔ Connected none segments ∧
      ∀ a ∈ segments.getLast?, isConnective a = false := by
  simp only [connected_iff, fits_none_iff, fits_some_iff]
  exact ⟨fun h => ⟨⟨h.first, h.neighbours⟩, h.last⟩, fun h => ⟨h.1.1, h.1.2, h.2⟩⟩

theorem normal_keptSegments (s : Text) : Normal (significant (keptSegments (Segment.scan s))) := by
  have hkept := kept_stack s
  rw [normal_iff, connected_iff, keptSegments_scan, significant_reverse, List.head?_reverse,
    List.getLast?_reverse, List.isChain_reverse, ← lastSignificant?_eq_head?]
  exact ⟨⟨hkept.fits_first, hkept.fits⟩, (cut_trimEnd (fun _ => id) _).2⟩

/-! ### The end of the text -/

/-- The segments without blanks at the end: a last run of blanks goes, and a quoted run that the
text leaves open loses those it ends in. -/
def trimLast (segments : List Segment) : List Segment :=
  match segments.getLast? with
  | some (.space _) => segments.dropLast
  | some (.quoted s) => segments.dropLast ++ [.quoted (Text.trimRight s)]
  | _ => segments

theorem trimLast_concat (front : List Segment) (a : Segment) :
    trimLast (front ++ [a]) =
      match a with
      | .space _ => front
      | .quoted s => front ++ [.quoted (Text.trimRight s)]
      | a => front ++ [a] := by
  rw [trimLast, List.getLast?_concat]
  cases a <;> simp

theorem trimLeft_flatMap_text {segments : List Segment} (h : Canonical segments)
    (hfirst : ∀ a ∈ segments.head?, a.isSpace = false) :
    Text.trimLeft (segments.flatMap Segment.text) = segments.flatMap Segment.text := by
  refine Text.trimLeft_eq_self_iff.2 fun c hc => ?_
  cases segments with
  | nil => exact absurd hc (by simp)
  | cons a segments =>
      obtain ⟨d, hhead, hblank, -, -⟩ := Segment.head?_text (h.sound a List.mem_cons_self)
      rw [List.flatMap_cons, List.head?_append, hhead, Option.some_or] at hc
      obtain rfl : d = c := Option.some.inj hc
      rw [← Bool.not_eq_true, hblank, ← Segment.isSpace_iff, hfirst a rfl]
      exact Bool.false_ne_true

/-- A text does not end in a blank if its last segment is neither blank nor an open run. -/
theorem trimRight_flatMap_text {front : List Segment} {last : Segment} (hsound : last.Sound)
    (hspace : last.isSpace = false) (hclosed : ∀ s, last = .quoted s → Segment.IsClosed s) :
    Text.trimRight ((front ++ [last]).flatMap Segment.text) =
      (front ++ [last]).flatMap Segment.text := by
  rw [List.flatMap_append, List.flatMap_cons, List.flatMap_nil, List.append_nil,
    Segment.trimRight_append_text hsound hspace, Segment.trimRight_text hsound hspace hclosed]

/-- Trimming a text trims its last segment. -/
theorem trim_flatMap_text {segments : List Segment} (h : Canonical segments)
    (hfirst : ∀ a ∈ segments.head?, a.isSpace = false) :
    Text.trim (segments.flatMap Segment.text) = (trimLast segments).flatMap Segment.text := by
  rw [Text.trim, trimLeft_flatMap_text h hfirst]
  rcases List.eq_nil_or_concat segments with rfl | ⟨front, last, rfl⟩
  · rfl
  · rw [List.concat_eq_append] at h ⊢
    obtain ⟨hfront, -, hmeets⟩ := List.isChain_append.1 h.chain
    have hsound : last.Sound := h.sound last (by simp)
    rw [trimLast_concat]
    cases last with
    | space t =>
        rw [List.flatMap_append, List.flatMap_cons, List.flatMap_nil, List.append_nil, Segment.text,
          Text.trimRight_append_blanks hsound.2]
        rcases List.eq_nil_or_concat front with rfl | ⟨front, a, rfl⟩
        · rfl
        · rw [List.concat_eq_append] at h hmeets ⊢
          have ha : a.Meets (.space t) := hmeets a (by simp) _ rfl
          refine trimRight_flatMap_text (h.sound a (by simp)) ?_ ?_
          · rw [← Bool.not_eq_true, Segment.isSpace_iff]
            rintro ⟨u, rfl⟩
            exact ha t rfl
          · rintro u rfl
            exact ha.1
    | quoted t =>
        rw [List.flatMap_append, List.flatMap_append, List.flatMap_cons, List.flatMap_nil,
          List.append_nil, Segment.trimRight_append_text hsound rfl, List.flatMap_cons,
          List.flatMap_nil, List.append_nil]
        rfl
    | paren c => exact trimRight_flatMap_text hsound rfl fun s hs => by simp at hs
    | word t => exact trimRight_flatMap_text hsound rfl fun s hs => by simp at hs

theorem canonical_trimLast {segments : List Segment} (h : Canonical segments) :
    Canonical (trimLast segments) := by
  rcases List.eq_nil_or_concat segments with rfl | ⟨front, last, rfl⟩
  · exact h
  · rw [List.concat_eq_append] at h ⊢
    rw [trimLast_concat]
    obtain ⟨hfront, -, hmeets⟩ := List.isChain_append.1 h.chain
    have hsound : ∀ a ∈ front, a.Sound := fun a ha => h.sound a (List.mem_append_left _ ha)
    cases last with
    | space t => exact ⟨hsound, hfront⟩
    | quoted t =>
        have ht : Sound (.quoted t) := h.sound _ (by simp)
        rcases Segment.trimRight_quoted ht with ⟨-, hsame⟩ | ⟨-, hopen, hhead⟩
        · simp only [hsame]
          exact h
        · refine ⟨?_, List.isChain_append.2 ⟨hfront, List.IsChain.singleton _, fun a ha b hb => ?_⟩⟩
          · intro a ha
            rcases List.mem_append.1 ha with ha | ha
            · exact hsound a ha
            · rw [List.mem_singleton.1 ha]
              exact Or.inr hopen
          · obtain rfl : Segment.quoted (Text.trimRight t) = b := by simpa using hb
            exact (hmeets a ha _ rfl : a.Meets (.quoted t)).quoted_congr hhead
    | paren c => exact h
    | word t => exact h

theorem first_keptSegments (s : Text) :
    ∀ a ∈ (keptSegments (Segment.scan s)).head?, a.isSpace = false := by
  rw [keptSegments_scan, List.head?_reverse]
  exact (kept_stack s).first

/-- **The text without dangling connectives is cut into what is kept of its segments.** -/
theorem scan_trimConnectives (s : Text) :
    Segment.scan (trimConnectives s) = trimLast (keptSegments (Segment.scan s)) := by
  have hcanonical := canonical_keptSegments s
  rw [trimConnectives, trim_flatMap_text hcanonical (first_keptSegments s),
    Segment.scan_flatMap_text (canonical_trimLast hcanonical)]

/-- Only an open quoted run changes when the end is trimmed. -/
theorem significant_trimLast {segments : List Segment} (h : Canonical segments) :
    significant (trimLast segments) = significant segments ∨
      ∃ front q, Segment.IsOpen q ∧ segments = front ++ [.quoted q] ∧
        significant segments = significant front ++ [.quoted q] ∧
        significant (trimLast segments) = significant front ++ [.quoted (Text.trimRight q)] := by
  rcases List.eq_nil_or_concat segments with rfl | ⟨front, last, rfl⟩
  · exact Or.inl rfl
  · rw [List.concat_eq_append] at h ⊢
    rw [trimLast_concat]
    cases last with
    | space t => exact Or.inl (by simp [significant, Segment.isSpace])
    | quoted t =>
        have ht : Sound (.quoted t) := h.sound _ (by simp)
        rcases Segment.trimRight_quoted ht with ⟨-, hsame⟩ | ⟨hopen, -⟩
        · simp only [hsame, true_or]
        · exact Or.inr ⟨front, t, hopen, rfl, by simp [significant, Segment.isSpace],
            by simp [significant, Segment.isSpace]⟩
    | paren c => exact Or.inl rfl
    | word t => exact Or.inl rfl

/-- Whether connectives connect does not depend on what is quoted. -/
theorem Normal.quoted_congr {front : List Segment} {s t : Text}
    (h : Normal (front ++ [.quoted s])) : Normal (front ++ [.quoted t]) := by
  obtain ⟨hfirst, hneighbours, -⟩ := h
  obtain ⟨hfront, -, hlast⟩ := List.isChain_append.1 hneighbours
  refine ⟨?_, List.isChain_append.2 ⟨hfront, List.IsChain.singleton _, fun a ha b hb => ?_⟩, ?_⟩
  · cases front with
    | nil => simp [isAnd, Segment.isKeyword]
    | cons a front => exact hfirst
  · obtain rfl : Segment.quoted t = b := by simpa using hb
    exact ⟨fun hand => absurd hand (by simp [isAnd, Segment.isKeyword]),
      fun _ => ⟨by simp, by simp [isTerminator, Segment.isKeyword]⟩⟩
  · simp [isConnective, Segment.isKeyword]

theorem trimConnectives_eq_self_iff_normal {s : Text} :
    trimConnectives s = s ↔ Text.trim s = s ∧ Normal (significant (Segment.scan s)) := by
  rw [trimConnectives_eq_self_iff, normal_iff]

/-- Connectives of a trimmed text connect. -/
theorem normal_trimConnectives (s : Text) :
    Normal (significant (Segment.scan (trimConnectives s))) := by
  have hkept := normal_keptSegments s
  rw [scan_trimConnectives]
  rcases significant_trimLast (canonical_keptSegments s) with hsame | ⟨front, q, -, -, hq, hlast⟩
  · rwa [hsame]
  · rw [hlast]
    rw [hq] at hkept
    exact hkept.quoted_congr

theorem trimConnectives_trimConnectives (s : Text) :
    trimConnectives (trimConnectives s) = trimConnectives s :=
  trimConnectives_eq_self_iff_normal.2 ⟨Text.trim_trim _, normal_trimConnectives s⟩

/-- **Connectives of a trimmed text connect, and a text whose connectives connect stays.** -/
theorem trimConnectives_normal (s : Text) :
    Normal (significant (Segment.scan (trimConnectives s))) ∧
      trimConnectives (trimConnectives s) = trimConnectives s ∧
      (trimConnectives s = s ↔ Text.trim s = s ∧ Normal (significant (Segment.scan s))) :=
  ⟨normal_trimConnectives s, trimConnectives_trimConnectives s,
    trimConnectives_eq_self_iff_normal⟩

/-- **Trimming deletes connectives and nothing else.** -/
theorem trimConnectives_keeps (s : Text) :
    ∃ kept : List Segment, kept.Sublist (significant (Segment.scan s)) ∧
      kept.filter (fun a => !isConnective a) =
        (significant (Segment.scan s)).filter (fun a => !isConnective a) ∧
      (significant (Segment.scan (trimConnectives s)) = kept ∨
        ∃ front q, Segment.IsOpen q ∧ (Segment.scan s).getLast? = some (.quoted q) ∧
          kept = front ++ [.quoted q] ∧
          significant (Segment.scan (trimConnectives s)) =
            front ++ [.quoted (Text.trimRight q)]) := by
  refine ⟨significant (keptSegments (Segment.scan s)), (keptSegments_sublist _).filter _, ?_, ?_⟩
  · rw [significant, significant, List.filter_filter, List.filter_filter]
    exact filter_isContent_keptSegments (Segment.scan s)
  · rw [scan_trimConnectives]
    rcases significant_trimLast (canonical_keptSegments s) with hsame |
      ⟨front, q, hopen, hconcat, hq, hlast⟩
    · exact Or.inl hsame
    · have hmem : Segment.quoted q ∈ keptSegments (Segment.scan s) := by
        rw [hconcat]
        exact List.mem_append_right _ List.mem_cons_self
      exact Or.inr ⟨significant front, q, hopen, (Segment.canonical_scan s).getLast?_of_isOpen hopen
        ((keptSegments_sublist _).mem hmem), hq, hlast⟩

end Cleanup

end Pushdown
