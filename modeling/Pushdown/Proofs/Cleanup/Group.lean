/-
**Empty groups among segments.**

A word with an empty group behind it is searched for in the texts between quoted runs, character by
character.  Among the segments of the whole text it is a word that ends in the searched one, an
opening and a closing parenthesis, with nothing but blanks between them: the characters of the
searched word are those of a word, so it is not spread over several segments, and a blank or a
parenthesis in front of it is no word character.

Main definitions:

* `Cleanup.EndsIn` — a segment ends in a word;
* `Cleanup.GroupedRow` — a segment that ends in a word, and an empty group behind it.

Main results:

* `Cleanup.groupedFrom_append_iff` — where a match starts in a word and a rest behind it;
* `Cleanup.emptyGroup_opening_iff` — when a text starts with an empty group;
* `Cleanup.grouped_stretches_iff` — **a match is three segments in a row, blanks aside**.
-/

import Pushdown.Proofs.Cleanup.Segment
import Pushdown.Proofs.Cleanup.Tidy

set_option autoImplicit false

namespace Pushdown

namespace Cleanup

open Segment (Sound Canonical isWordPart isParen)

/-! ### The text in front of the first quoted run -/

/-- What a segment does not reach into starts with no character of the segment's kind. -/
theorem head?_opening {segments : List Segment} {w : Text} (h : ∀ a ∈ segments, a.Sound)
    (hmeets : ∀ a ∈ segments.head?, Segment.Meets (.word w) a) :
    ∀ c ∈ (opening segments).head?, isWordPart c = false := by
  cases segments with
  | nil => simp [opening, stretches]
  | cons a segments =>
      by_cases hquoted : ∃ q, a = .quoted q
      · obtain ⟨q, rfl⟩ := hquoted
        simp [opening, stretches]
      · intro c hc
        obtain ⟨d, hhead, -, -, hword⟩ := Segment.head?_text (h a List.mem_cons_self)
        rw [opening_cons fun q hq => hquoted ⟨q, hq⟩, List.head?_append, hhead,
          Option.some_or] at hc
        obtain rfl : d = c := Option.some.inj hc
        rw [← Bool.not_eq_true, hword, not_exists]
        exact hmeets a rfl

/-! ### Characters around a word -/

theorem not_isWordPart_of_isBlank {c : Char} (h : Text.isBlank c = true) :
    isWordPart c = false := by simp [isWordPart, h]

theorem not_isWordPart_of_isParen {c : Char} (h : isParen c = true) : isWordPart c = false := by
  simp [isWordPart, h]

theorem not_isWordChar_of_isParen {c : Char} (h : isParen c = true) :
    Text.isWordChar c = false := by
  simp only [isParen, Bool.or_eq_true, decide_eq_true_eq] at h
  rcases h with rfl | rfl <;> decide

theorem not_isWordChar_of_isBlank {c : Char} (h : Text.isBlank c = true) :
    Text.isWordChar c = false := by
  have hall : ∀ n ∈ List.range' 9 5 ++ List.range' 0x2000 11 ++
      [32, 0x85, 0xA0, 0x1680, 0x2028, 0x2029, 0x202F, 0x205F, 0x3000],
      Text.isWordChar (Char.ofNat n) = false := by decide +kernel
  rw [← Char.ofNat_toNat c]
  refine hall _ ?_
  simp only [Text.isBlank, Bool.or_eq_true, Bool.and_eq_true, decide_eq_true_eq, beq_iff_eq] at h
  simp only [List.mem_append, List.mem_range'_1, List.mem_cons, List.not_mem_nil]
  omega

/-- The letters that have two cases. -/
def letters : List Char := (List.range' 65 26 ++ List.range' 97 26).map Char.ofNat

/-- Any other character is left as it is. -/
theorem mem_letters_or (c : Char) : c ∈ letters ∨ (c.toUpper = c ∧ c.toLower = c) := by
  by_cases hupper : c.val ≥ 'A'.val ∧ c.val ≤ 'Z'.val
  · have hlow : 65 ≤ c.toNat := hupper.1
    have hhigh : c.toNat ≤ 90 := hupper.2
    refine Or.inl (List.mem_map.2 ⟨c.toNat, ?_, Char.ofNat_toNat c⟩)
    exact List.mem_append_left _ (List.mem_range'_1.2 (by omega))
  · by_cases hlower : 'a'.val ≤ c.val ∧ c.val ≤ 'z'.val
    · have hlow : 97 ≤ c.toNat := hlower.1
      have hhigh : c.toNat ≤ 122 := hlower.2
      refine Or.inl (List.mem_map.2 ⟨c.toNat, ?_, Char.ofNat_toNat c⟩)
      exact List.mem_append_right _ (List.mem_range'_1.2 (by omega))
    · exact Or.inr ⟨dif_neg hlower, dif_neg hupper⟩

/-- A character is a part of a word in either case. -/
theorem isWordPart_of_toUpper {c : Char} (h : isWordPart c.toUpper = true) :
    isWordPart c = true := by
  rcases mem_letters_or c with hc | ⟨hc, -⟩
  · have hall : ∀ d ∈ letters, isWordPart d = true := by decide
    exact hall c hc
  · rwa [hc] at h

theorem isWordPart_of_mem_toUpper {w : Text} (h : ∀ c ∈ Text.toUpper w, isWordPart c = true) :
    ∀ c ∈ w, isWordPart c = true :=
  fun c hc => isWordPart_of_toUpper (h c.toUpper (List.mem_map_of_mem hc))

/-- Each case of a character is told from the other one. -/
theorem toUpper_toLower_and (c : Char) :
    c.toLower.toUpper = c.toUpper ∧ c.toUpper.toLower = c.toLower := by
  rcases mem_letters_or c with hc | ⟨hupper, hlower⟩
  · have hall : ∀ d ∈ letters,
        d.toLower.toUpper = d.toUpper ∧ d.toUpper.toLower = d.toLower := by decide
    exact hall c hc
  · rw [hupper, hlower]
    exact ⟨hupper, rfl⟩

theorem toUpper_toLower (s : Text) : Text.toUpper (Text.toLower s) = Text.toUpper s := by
  rw [Text.toUpper, Text.toLower, List.map_map]
  exact List.map_congr_left fun c _ => (toUpper_toLower_and c).1

theorem toLower_toUpper (s : Text) : Text.toLower (Text.toUpper s) = Text.toLower s := by
  rw [Text.toLower, Text.toUpper, List.map_map]
  exact List.map_congr_left fun c _ => (toUpper_toLower_and c).2

/-! ### A match in a word and a rest behind it -/

/-- An empty group starts with no character of a word. -/
theorem head?_emptyGroup {g : Text} (h : EmptyGroup g) (rest : Text) :
    ∀ c ∈ (g ++ rest).head?, isWordPart c = false := by
  obtain ⟨a, b, ha, -, rfl⟩ := h
  intro c hc
  cases a with
  | nil =>
      obtain rfl : '(' = c := by simpa using hc
      decide
  | cons d a =>
      obtain rfl : d = c := by simpa using hc
      exact not_isWordPart_of_isBlank (ha d List.mem_cons_self)

section

variable {word : Text} (hword : Sound (.word word))

include hword

theorem sound_of_toUpper {w : Text} (h : Text.toUpper w = word) : Sound (.word w) := by
  subst h
  exact ⟨by simpa [Text.toUpper] using hword.1, isWordPart_of_mem_toUpper hword.2⟩

/-- The searched word takes all characters of a word in front of the group. -/
theorem startsGrouped_append_iff {x h : Text} (hx : ∀ c ∈ x, isWordPart c = true)
    (hh : ∀ c ∈ h.head?, isWordPart c = false) :
    StartsGrouped word (x ++ h) ↔
      Text.toUpper x = word ∧ ∃ g rest, h = g ++ rest ∧ EmptyGroup g := by
  constructor
  · rintro ⟨w, g, rest, hs, hupper, hgroup⟩
    have hw := (sound_of_toUpper hword hupper).2
    have hsame : x = w := by
      have htake := congrArg (List.takeWhile isWordPart) hs
      rwa [List.append_assoc, (Text.takeWhile_append_of_head hh x).1,
        (Text.takeWhile_append_of_head (head?_emptyGroup hgroup rest) w).1,
        List.takeWhile_eq_self_iff.2 hx, List.takeWhile_eq_self_iff.2 hw] at htake
    subst hsame
    rw [List.append_assoc] at hs
    exact ⟨hupper, g, rest, List.append_cancel_left hs, hgroup⟩
  · rintro ⟨hupper, g, rest, rfl, hgroup⟩
    exact ⟨x, g, rest, by rw [List.append_assoc], hupper, hgroup⟩

/-- No match starts at a character that is not one of a word. -/
theorem groupedFrom_cons_of_not_isWordPart {c : Char} (hc : isWordPart c = false) (inWord : Bool)
    (h : Text) : GroupedFrom word inWord (c :: h) ↔ GroupedFrom word (Text.isWordChar c) h := by
  rw [groupedFrom_cons_iff, or_iff_right]
  rintro ⟨-, hstart⟩
  have hhead : ∀ d ∈ (c :: h).head?, isWordPart d = false := by simpa using hc
  have hnil := (startsGrouped_append_iff hword (x := []) (by simp) hhead).1 hstart
  exact hword.1 hnil.1.symm

theorem groupedFrom_congr {h : Text} (hh : ∀ c ∈ h.head?, isWordPart c = false)
    (inWord inWord' : Bool) : GroupedFrom word inWord h ↔ GroupedFrom word inWord' h := by
  cases h with
  | nil => exact iff_of_false (not_groupedFrom_nil word inWord) (not_groupedFrom_nil word inWord')
  | cons c h =>
      rw [groupedFrom_cons_of_not_isWordPart hword (hh c rfl),
        groupedFrom_cons_of_not_isWordPart hword (hh c rfl)]

/-- Blanks and parentheses in front of a text are in front of its matches. -/
theorem grouped_append_of_forall {s : Text}
    (hs : ∀ c ∈ s, Text.isBlank c = true ∨ isParen c = true) (h : Text) :
    Grouped word (s ++ h) ↔ Grouped word h := by
  induction s with
  | nil => exact Iff.rfl
  | cons c s ih =>
      have hclass : isWordPart c = false ∧ Text.isWordChar c = false := by
        rcases hs c List.mem_cons_self with hc | hc
        · exact ⟨not_isWordPart_of_isBlank hc, not_isWordChar_of_isBlank hc⟩
        · exact ⟨not_isWordPart_of_isParen hc, not_isWordChar_of_isParen hc⟩
      rw [List.cons_append, Grouped, groupedFrom_cons_of_not_isWordPart hword hclass.1, hclass.2]
      exact ih fun d hd => hs d (List.mem_cons_of_mem _ hd)

/-- A match starts in the word and takes it to its end, or it starts behind the word. -/
theorem groupedFrom_append_iff {x h : Text} (hx : ∀ c ∈ x, isWordPart c = true)
    (hh : ∀ c ∈ h.head?, isWordPart c = false) (inWord : Bool) :
    GroupedFrom word inWord (x ++ h) ↔
      ((∃ front w, x = front ++ w ∧ Text.toUpper w = word ∧
          (front.getLast?.map Text.isWordChar).getD inWord = false) ∧
        ∃ g rest, h = g ++ rest ∧ EmptyGroup g) ∨ Grouped word h := by
  induction x generalizing inWord with
  | nil =>
      rw [List.nil_append, groupedFrom_congr hword hh inWord false]
      refine (or_iff_right ?_).symm
      rintro ⟨⟨front, w, hnil, hupper, -⟩, -⟩
      obtain ⟨-, rfl⟩ := List.append_eq_nil_iff.1 hnil.symm
      exact absurd hupper.symm hword.1
  | cons c x ih =>
      have hrest : ∀ d ∈ x, isWordPart d = true := fun d hd => hx d (List.mem_cons_of_mem _ hd)
      have hends : (∃ front w, c :: x = front ++ w ∧ Text.toUpper w = word ∧
            (front.getLast?.map Text.isWordChar).getD inWord = false) ↔
          inWord = false ∧ Text.toUpper (c :: x) = word ∨
            ∃ front w, x = front ++ w ∧ Text.toUpper w = word ∧
              (front.getLast?.map Text.isWordChar).getD (Text.isWordChar c) = false := by
        constructor
        · rintro ⟨front, w, hs, hupper, hbefore⟩
          cases front with
          | nil =>
              rw [List.nil_append] at hs
              exact Or.inl ⟨by simpa using hbefore, hs ▸ hupper⟩
          | cons d front =>
              rw [List.cons_append, List.cons.injEq] at hs
              rw [getLast?_cons_getD, ← hs.1] at hbefore
              exact Or.inr ⟨front, w, hs.2, hupper, hbefore⟩
        · rintro (⟨hbefore, hupper⟩ | ⟨front, w, hs, hupper, hbefore⟩)
          · exact ⟨[], c :: x, rfl, hupper, by simpa using hbefore⟩
          · exact ⟨c :: front, w, by rw [hs, List.cons_append], hupper,
              by rw [getLast?_cons_getD]; exact hbefore⟩
      rw [List.cons_append, groupedFrom_cons_iff, ← List.cons_append,
        startsGrouped_append_iff hword hx hh, ih hrest, hends, or_and_right, or_assoc, and_assoc]

end

theorem not_grouped_nil (word : Text) : ¬ Grouped word [] := not_groupedFrom_nil word false

/-! ### Segments in a row -/

/-- The first character that is no blank is a parenthesis exactly if the first segment that is no
blank is. -/
theorem exists_behind_paren {segments : List Segment} (h : ∀ a ∈ segments, a.Sound) {c : Char}
    (hc : isParen c = true)
    (hfirst : (∃ r, Text.trimLeft (opening segments) = c :: r) ∨
      ∃ l, significant segments = .paren c :: l) :
    ∃ rest : List Segment, (∀ a ∈ rest, a.Sound) ∧
      Text.trimLeft (opening segments) = c :: opening rest ∧
      significant segments = .paren c :: significant rest := by
  induction segments with
  | nil =>
      rcases hfirst with ⟨r, hr⟩ | ⟨l, hl⟩
      · exact absurd hr (by simp [opening, stretches, Text.trimLeft])
      · exact absurd hl (by simp [significant])
  | cons s segments ih =>
      have hrest : ∀ a ∈ segments, a.Sound := fun a ha => h a (List.mem_cons_of_mem _ ha)
      have hs : s.Sound := h s List.mem_cons_self
      cases s with
      | quoted q =>
          rcases hfirst with ⟨r, hr⟩ | ⟨l, hl⟩
          · exact absurd hr (by simp [opening, stretches, Text.trimLeft])
          · exact absurd hl (by simp [significant, Segment.isSpace])
      | space t =>
          have hopening : Text.trimLeft (opening (.space t :: segments)) =
              Text.trimLeft (opening segments) := by
            rw [opening_cons (by simp)]
            exact trimLeft_append_of_blank hs.2 _
          rw [hopening, significant_cons_of_isSpace rfl] at hfirst ⊢
          exact ih hrest hfirst
      | paren d =>
          have hopening : Text.trimLeft (opening (.paren d :: segments)) =
              d :: opening segments := by
            rw [opening_cons (by simp), Segment.text, List.singleton_append]
            exact Text.trimLeft_eq_self_iff.2 (by simpa using Segment.not_isBlank_of_isParen hs)
          rw [hopening, significant_cons rfl] at hfirst ⊢
          have hd : d = c := by
            rcases hfirst with ⟨r, hr⟩ | ⟨l, hl⟩
            · exact (List.cons.inj hr).1
            · exact Segment.paren.inj (List.cons.inj hl).1
          subst hd
          exact ⟨segments, hrest, rfl, rfl⟩
      | word w =>
          rcases hfirst with ⟨r, hr⟩ | ⟨l, hl⟩
          · obtain ⟨d, w, rfl⟩ := List.exists_cons_of_ne_nil hs.1
            have hd := hs.2 d List.mem_cons_self
            have hblank := (Segment.isWordPart_iff.1 hd).1
            rw [opening_cons (by simp), Segment.text, List.cons_append,
              Text.trimLeft_eq_self_iff.2 (by simpa using hblank), List.cons.injEq] at hr
            rw [hr.1, not_isWordPart_of_isParen hc] at hd
            exact absurd hd Bool.false_ne_true
          · exact absurd hl (by simp [significant, Segment.isSpace])

/-- A text starts with an empty group exactly if its first two segments are one, blanks aside. -/
theorem emptyGroup_opening_iff {segments : List Segment} (h : ∀ a ∈ segments, a.Sound) :
    (∃ g rest, opening segments = g ++ rest ∧ EmptyGroup g) ↔
      [.paren '(', .paren ')'] <+: significant segments := by
  have hgroup : (∃ g rest, opening segments = g ++ rest ∧ EmptyGroup g) ↔
      ∃ rest, behindGroup? (opening segments) = some rest := by
    simp only [behindGroup?_eq_some_iff]
    exact exists_comm
  have hopen : isParen '(' = true := by decide
  have hclose : isParen ')' = true := by decide
  rw [hgroup]
  constructor
  · rintro ⟨rest, hrest⟩
    unfold behindGroup? at hrest
    split at hrest
    · next more hmore =>
        obtain ⟨inside, hinside, hopening, hsignificant⟩ :=
          exists_behind_paren h hopen (Or.inl ⟨more, hmore⟩)
        obtain rfl : opening inside = more := (List.cons.inj (hopening.symm.trans hmore)).2
        split at hrest
        · next last hlast =>
            obtain ⟨behind, -, -, hbehind⟩ :=
              exists_behind_paren hinside hclose (Or.inl ⟨last, hlast⟩)
            exact ⟨significant behind, by rw [hsignificant, hbehind]; rfl⟩
        · exact absurd hrest (by simp)
    · exact absurd hrest (by simp)
  · rintro ⟨l, hl⟩
    obtain ⟨inside, hinside, hopening, hsignificant⟩ :=
      exists_behind_paren h hopen (Or.inr ⟨_, hl.symm⟩)
    have hl' : significant inside = .paren ')' :: l :=
      (List.cons.inj (hsignificant.symm.trans hl.symm)).2
    obtain ⟨behind, -, hlast, -⟩ := exists_behind_paren hinside hclose (Or.inr ⟨l, hl'⟩)
    exact ⟨opening behind, by simp only [behindGroup?, hopening, hlast]⟩

/-- A segment is a word that ends in an upper case word, written in any case, with no word character
directly in front of it. -/
def EndsIn (word : Text) (a : Segment) : Prop :=
  ∃ front w : Text, a = .word (front ++ w) ∧ Text.toUpper w = word ∧
    (front.getLast?.map Text.isWordChar).getD false = false

/-- A word in any case ends in itself. -/
theorem endsIn_of_isKeyword {word : Text} (hword : Text.toUpper word = word) {a : Segment}
    (h : a.isKeyword word = true) : EndsIn word a := by
  obtain ⟨w, rfl, hw⟩ := eq_keyword_of_isKeyword h
  exact ⟨[], w, rfl, by rw [← toUpper_toLower, hw, toUpper_toLower, hword], rfl⟩

theorem EndsIn.suffix {word w : Text} (h : EndsIn word (.word w)) :
    Text.toLower word <:+ Text.toLower w := by
  obtain ⟨front, v, hw, hupper, -⟩ := h
  refine ⟨Text.toLower front, ?_⟩
  rw [Segment.word.inj hw, ← hupper, toLower_toUpper, Text.toLower, Text.toLower, Text.toLower,
    List.map_append]

/-- Three segments in a row, blanks aside: one that ends in a word, and an empty group. -/
def GroupedRow (word : Text) (segments : List Segment) : Prop :=
  ∃ a, EndsIn word a ∧ [a, .paren '(', .paren ')'] <:+: segments

theorem groupedRow_cons_iff {word : Text} {s : Segment} {segments : List Segment} :
    GroupedRow word (s :: segments) ↔
      (EndsIn word s ∧ [.paren '(', .paren ')'] <+: segments) ∨ GroupedRow word segments := by
  constructor
  · rintro ⟨a, ha, hinfix⟩
    rcases List.infix_cons_iff.1 hinfix with hprefix | hinfix
    · obtain ⟨rfl, hgroup⟩ := List.cons_prefix_cons.1 hprefix
      exact Or.inl ⟨ha, hgroup⟩
    · exact Or.inr ⟨a, ha, hinfix⟩
  · rintro (⟨hs, hgroup⟩ | ⟨a, ha, hinfix⟩)
    · exact ⟨s, hs, (List.cons_prefix_cons.2 ⟨rfl, hgroup⟩).isInfix⟩
    · exact ⟨a, ha, List.infix_cons hinfix⟩

theorem groupedRow_cons_of_ne {word : Text} {s : Segment} (hs : ∀ w, s ≠ .word w)
    {segments : List Segment} : GroupedRow word (s :: segments) ↔ GroupedRow word segments := by
  rw [groupedRow_cons_iff, or_iff_right]
  rintro ⟨⟨front, w, hword, -⟩, -⟩
  exact hs _ hword

/-- **A word has an empty group behind it outside of quotes exactly if three segments in a row say
so, blanks aside.** -/
theorem grouped_stretches_iff {word : Text} (hword : Sound (.word word)) {segments : List Segment}
    (h : Canonical segments) :
    (∃ t ∈ stretches segments, Grouped word t) ↔ GroupedRow word (significant segments) := by
  induction segments using Segment.quoted_induction with
  | nil =>
      refine iff_of_false (by simpa [stretches] using not_grouped_nil word) ?_
      rintro ⟨a, -, hinfix⟩
      exact absurd hinfix (by simp [significant])
  | quoted q segments ih =>
      rw [significant_cons rfl, groupedRow_cons_of_ne (by simp), ← ih h.tail, stretches]
      simp only [List.mem_cons, exists_eq_or_imp]
      exact or_iff_right (not_grouped_nil word)
  | other s segments hne ih =>
      have hrest := h.tail
      have hs : s.Sound := h.sound s List.mem_cons_self
      replace ih := ih hrest
      rw [stretches_eq_cons segments] at ih
      rw [stretches_cons hne]
      simp only [List.mem_cons, exists_eq_or_imp] at ih ⊢
      cases s with
      | quoted q => exact absurd rfl (hne q)
      | space t =>
          rw [significant_cons_of_isSpace rfl, ← ih]
          exact or_congr_left (grouped_append_of_forall hword (fun c hc => Or.inl (hs.2 c hc)) _)
      | paren c =>
          rw [significant_cons rfl, groupedRow_cons_of_ne (by simp), ← ih]
          refine or_congr_left (grouped_append_of_forall hword (fun d hd => Or.inr ?_) _)
          rw [List.mem_singleton.1 hd]
          exact hs
      | word w =>
          have hends : (∃ front v, w = front ++ v ∧ Text.toUpper v = word ∧
              (front.getLast?.map Text.isWordChar).getD false = false) ↔
              EndsIn word (.word w) := by
            simp only [EndsIn, Segment.word.injEq]
          have hmeets := (List.isChain_cons.1 h.chain).1
          rw [significant_cons rfl, groupedRow_cons_iff, ← ih, ← or_assoc,
            ← emptyGroup_opening_iff hrest.sound, ← hends]
          exact or_congr_left (groupedFrom_append_iff hword hs.2
            (head?_opening hrest.sound hmeets) false)

end Cleanup

end Pushdown
