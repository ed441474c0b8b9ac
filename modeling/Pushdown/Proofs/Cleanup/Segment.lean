/-
**Segments and texts.**

A text is cut into segments at one place after the other, and what a segment takes does not depend
on the segments in front of it.  The segments of a text are the text again.  Conversely a row of
segments is what its text is cut into, as long as none of them reaches into the next one: two runs
of blanks or two words side by side are one, and of two quoted runs with the same quote the second
one continues the first.

Main definitions:

* `Segment.openRun`, `Segment.closedRun` — a quoted run by what it quotes;
* `Segment.Sound` — a segment as the scan makes them;
* `Segment.Stops`, `Segment.Meets` — a segment ends where the next text, or segment, starts;
* `Segment.Canonical` — sound segments, none of which reaches into the next one;
* `Segment.WellCut` — the same, as a list of the neighbours that there are not.

Main results:

* `Segment.flatMap_text_scan` — the segments of a text are its text;
* `Segment.scan_append` — a segment is cut off in front of any text where it stops;
* `Segment.canonical_scan` — **a text is cut into canonical segments**;
* `Segment.scan_flatMap_text` — **canonical segments are what their text is cut into**;
* `Segment.scan_eq_iff` — both together, and with no segment empty;
* `Segment.scan_closed_append`, `Segment.scan_closed_append_quoted` — a closed run is cut off in
  front of anything but its own quote, and becomes a part of a run that starts with it.
-/

import Mathlib.Data.List.Chain
import Mathlib.Data.List.Flatten
import Mathlib.Data.List.TakeWhile
import Pushdown.Cleanup.Segment
import Pushdown.Proofs.Text.Splitting

set_option autoImplicit false

namespace Pushdown

namespace Segment

/-! ### The scan -/

/-- The characters that are taken already play no part. -/
theorem scanFrom_eq_scan_drop (skip : Nat) (s : Text) : scanFrom skip s = scan (s.drop skip) := by
  induction s generalizing skip with
  | nil => cases skip <;> rfl
  | cons c rest ih =>
      cases skip with
      | zero => rfl
      | succ skip => exact ih skip

theorem scan_cons (c : Char) (rest : Text) :
    scan (c :: rest) = first c rest :: scan ((c :: rest).drop (first c rest).text.length) := by
  obtain ⟨d, more, hmore⟩ := List.exists_cons_of_ne_nil (text_ne_nil_of_first c rest)
  rw [scan, scanFrom, scanFrom_eq_scan_drop, hmore, List.length_cons, Nat.add_sub_cancel,
    List.drop_succ_cons]

/-! ### Classes of characters -/

theorem not_isBlank_of_isQuote {c : Char} (h : isQuote c = true) : Text.isBlank c = false := by
  simp only [isQuote, Bool.or_eq_true, decide_eq_true_eq] at h
  rcases h with (rfl | rfl) | rfl <;> decide

theorem not_isBlank_of_isParen {c : Char} (h : isParen c = true) : Text.isBlank c = false := by
  simp only [isParen, Bool.or_eq_true, decide_eq_true_eq] at h
  rcases h with rfl | rfl <;> decide

theorem not_isQuote_of_isParen {c : Char} (h : isParen c = true) : isQuote c = false := by
  simp only [isParen, Bool.or_eq_true, decide_eq_true_eq] at h
  rcases h with rfl | rfl <;> decide

theorem isWordPart_iff {c : Char} :
    isWordPart c = true ↔
      Text.isBlank c = false ∧ isQuote c = false ∧ isParen c = false := by
  simp [isWordPart, and_assoc]

/-- Induction along segments that tells quoted runs from the others. -/
theorem quoted_induction {motive : List Segment → Prop} (nil : motive [])
    (quoted : ∀ q segments, motive segments → motive (quoted q :: segments))
    (other : ∀ s segments, (∀ q, s ≠ .quoted q) → motive segments → motive (s :: segments))
    (segments : List Segment) : motive segments := by
  induction segments with
  | nil => exact nil
  | cons s segments ih =>
      cases s with
      | quoted q => exact quoted q segments ih
      | space t => exact other _ segments (by simp) ih
      | paren c => exact other _ segments (by simp) ih
      | word t => exact other _ segments (by simp) ih

/-! ### Quoted runs -/

/-- A quoted run that is not closed: quotes inside of it are written twice. -/
def openRun (quote : Char) (content : Text) : Text :=
  quote :: Text.replaceChar quote [quote, quote] content

/-- A quoted run with its closing quote. -/
def closedRun (quote : Char) (content : Text) : Text := openRun quote content ++ [quote]

/-- A text is a closed quoted run. -/
def IsClosed (s : Text) : Prop :=
  ∃ quote content, isQuote quote = true ∧ s = closedRun quote content

/-- A text is a quoted run that is not closed. -/
def IsOpen (s : Text) : Prop :=
  ∃ quote content, isQuote quote = true ∧ s = openRun quote content

/-- Behind the opening quote stands a text that never closes the run, or one that closes it and a
rest that does not take the closing quote for half of a doubled one. -/
theorem exists_content (quote : Char) (s : Text) :
    (∃ content, s = Text.replaceChar quote [quote, quote] content) ∨
      ∃ content rest, s = Text.replaceChar quote [quote, quote] content ++ quote :: rest ∧
        rest.head? ≠ some quote := by
  induction s using quotedRun.induct quote with
  | case1 => exact Or.inl ⟨[], rfl⟩
  | case2 c =>
      by_cases hc : c = quote
      · exact Or.inr ⟨[], [], by simp [Text.replaceChar, hc], by simp⟩
      · exact Or.inl ⟨[c], by simp [Text.replaceChar, hc]⟩
  | case3 rest ih =>
      rcases ih with ⟨content, rfl⟩ | ⟨content, more, rfl, hmore⟩
      · exact Or.inl ⟨quote :: content, by simp [Text.replaceChar]⟩
      · exact Or.inr ⟨quote :: content, more, by simp [Text.replaceChar], hmore⟩
  | case4 d rest hd => exact Or.inr ⟨[], d :: rest, rfl, by simpa using hd⟩
  | case5 c d rest hc ih =>
      rcases ih with ⟨content, hcontent⟩ | ⟨content, more, hcontent, hmore⟩
      · exact Or.inl ⟨c :: content, by rw [hcontent]; simp [Text.replaceChar, hc]⟩
      · exact Or.inr ⟨c :: content, more, by rw [hcontent]; simp [Text.replaceChar, hc], hmore⟩

theorem quotedRun_cons_of_ne {quote c : Char} (h : c ≠ quote) (s : Text) :
    quotedRun quote (c :: s) = c :: quotedRun quote s := by
  cases s with
  | nil => rfl
  | cons d s => rw [quotedRun, if_neg h]

theorem quotedRun_quote {quote : Char} {s : Text} (h : s.head? ≠ some quote) :
    quotedRun quote (quote :: s) = [quote] := by
  cases s with
  | nil => rfl
  | cons d s =>
      rw [quotedRun, if_pos rfl, if_neg]
      simpa using h

/-- Doubled quotes are read as a part of the run, whatever stands behind. -/
theorem quotedRun_append (quote : Char) (content s : Text) :
    quotedRun quote (Text.replaceChar quote [quote, quote] content ++ s) =
      Text.replaceChar quote [quote, quote] content ++ quotedRun quote s := by
  induction content with
  | nil => rfl
  | cons c content ih =>
      by_cases hc : c = quote
      · have hcons : Text.replaceChar quote [quote, quote] (c :: content) =
            quote :: quote :: Text.replaceChar quote [quote, quote] content := by
          simp [Text.replaceChar, hc]
        rw [hcons, List.cons_append, List.cons_append, quotedRun, if_pos rfl, if_pos rfl, ih]
        rfl
      · have hcons : Text.replaceChar quote [quote, quote] (c :: content) =
            c :: Text.replaceChar quote [quote, quote] content := by
          simp [Text.replaceChar, hc]
        rw [hcons, List.cons_append, quotedRun_cons_of_ne hc, ih]
        rfl

theorem exists_quote {q : Text} (h : IsClosed q ∨ IsOpen q) :
    ∃ c, q.head? = some c ∧ isQuote c = true := by
  rcases h with ⟨c, content, hc, rfl⟩ | ⟨c, content, hc, rfl⟩
  · exact ⟨c, rfl, hc⟩
  · exact ⟨c, rfl, hc⟩

/-- A run is not both open and closed: another character behind it would belong to an open run and
not to a closed one. -/
theorem IsOpen.not_isClosed {s : Text} (h : IsOpen s) : ¬ IsClosed s := by
  obtain ⟨quote, content, hquote, rfl⟩ := h
  rintro ⟨quote', closed, -, hs⟩
  rw [closedRun, openRun, openRun, List.cons_append, List.cons.injEq] at hs
  obtain ⟨rfl, hs⟩ := hs
  have hblank : (' ' : Char) ≠ quote := by
    rintro rfl
    exact absurd hquote (by decide)
  have hopen := quotedRun_append quote content [' ']
  have hclosed := quotedRun_append quote closed [quote, ' ']
  rw [quotedRun_cons_of_ne hblank, quotedRun] at hopen
  rw [quotedRun_quote (by simpa using hblank)] at hclosed
  have hsame := congrArg (fun t => (quotedRun quote (t ++ [' '])).length) hs
  simp only [List.append_assoc, List.singleton_append, hopen, hclosed] at hsame
  have hlength := congrArg List.length hs
  simp only [List.length_append, List.length_cons, List.length_nil] at hsame hlength
  omega

/-- Blanks at the end of an open run stand at the end of what it quotes. -/
theorem trimRight_openRun {quote : Char} (hquote : isQuote quote = true) (content : Text) :
    Text.trimRight (openRun quote content) = openRun quote (Text.trimRight content) := by
  have hblank := not_isBlank_of_isQuote hquote
  suffices h : Text.trimRight (Text.replaceChar quote [quote, quote] content) =
      Text.replaceChar quote [quote, quote] (Text.trimRight content) by
    have hfront :=
      Text.trimRight_append_cons hblank [] (Text.replaceChar quote [quote, quote] content)
    rw [List.nil_append, List.nil_append, h] at hfront
    exact hfront
  induction content using List.reverseRecOn with
  | nil => rfl
  | append_singleton content c ih =>
      by_cases hc : Text.isBlank c = true
      · have hw : ∀ d ∈ [c], Text.isBlank d = true := by simpa using hc
        have hne : quote ∉ [c] := by
          rw [List.mem_singleton]
          rintro rfl
          rw [hc] at hblank
          exact absurd hblank (by simp)
        rw [Text.replaceChar_append, Text.replaceChar_of_not_mem hne,
          Text.trimRight_append_blanks hw, Text.trimRight_append_blanks hw, ih]
      · have hlast {s : Text} (hs : s.getLast? = some c) : Text.trimRight s = s :=
          Text.trimRight_eq_self_iff.2 (by simpa [hs] using hc)
        rw [hlast List.getLast?_concat, hlast]
        rw [Text.replaceChar_append, List.getLast?_append]
        by_cases hq : c = quote <;> simp [Text.replaceChar, hq]

/-! ### A segment in front of a text -/

/-- A segment as the scan makes them. -/
def Sound : Segment → Prop
  | space s => s ≠ [] ∧ ∀ c ∈ s, Text.isBlank c = true
  | quoted s => IsClosed s ∨ IsOpen s
  | paren c => isParen c = true
  | word s => s ≠ [] ∧ ∀ c ∈ s, isWordPart c = true

/-- A segment does not reach into a text behind it.  A quoted run reaches into any text if it is
not closed; if it is, its closing quote is half of a doubled one in front of another such quote. -/
def Stops : Segment → Text → Prop
  | space _, t => ∀ c ∈ t.head?, Text.isBlank c = false
  | quoted s, t => (t = [] ∨ IsClosed s) ∧ (t.head? = s.head? → t = [])
  | paren _, _ => True
  | word _, t => ∀ c ∈ t.head?, isWordPart c = false

theorem stops_nil (a : Segment) : a.Stops [] := by cases a <;> simp [Stops]

theorem text_ne_nil_of_sound {a : Segment} (h : a.Sound) : a.text ≠ [] := by
  cases a with
  | space s => exact h.1
  | quoted s =>
      rcases h with ⟨quote, content, -, rfl⟩ | ⟨quote, content, -, rfl⟩
      · simp [text, closedRun, openRun]
      · simp [text, openRun]
  | paren c => simp [text]
  | word s => exact h.1

/-- A segment starts with the characters of its kind, so it is cut off where it stops. -/
theorem first_append {a : Segment} {c : Char} {rest t : Text} (hsound : a.Sound)
    (hstops : a.Stops t) (htext : a.text = c :: rest) : first c (rest ++ t) = a := by
  cases a with
  | space s =>
      obtain rfl : s = c :: rest := htext
      have hblank := hsound.2 c List.mem_cons_self
      have hrest : rest.takeWhile Text.isBlank = rest :=
        List.takeWhile_eq_self_iff.2 fun d hd => hsound.2 d (List.mem_cons_of_mem _ hd)
      rw [first, if_pos hblank, (Text.takeWhile_append_of_head hstops rest).1, hrest]
  | word s =>
      obtain rfl : s = c :: rest := htext
      obtain ⟨hblank, hquote, hparen⟩ := isWordPart_iff.1 (hsound.2 c List.mem_cons_self)
      have hrest : rest.takeWhile isWordPart = rest :=
        List.takeWhile_eq_self_iff.2 fun d hd => hsound.2 d (List.mem_cons_of_mem _ hd)
      rw [first, if_neg (by simp [hblank]), if_neg (by simp [hquote]), if_neg (by simp [hparen]),
        (Text.takeWhile_append_of_head hstops rest).1, hrest]
  | paren d =>
      obtain ⟨rfl, rfl⟩ : d = c ∧ [] = rest := List.cons.inj htext
      have hparen : isParen d = true := hsound
      rw [first, if_neg (by simp [not_isBlank_of_isParen hparen]),
        if_neg (by simp [not_isQuote_of_isParen hparen]), if_pos hparen]
  | quoted s =>
      obtain rfl : s = c :: rest := htext
      have hclosed : IsClosed (c :: rest) → isQuote c = true ∧ quotedRun c (rest ++ t) = rest := by
        rintro ⟨quote, content, hquote, hs⟩
        rw [closedRun, openRun, List.cons_append, List.cons.injEq] at hs
        obtain ⟨rfl, hrest⟩ := hs
        have hhead : t.head? ≠ some c := by
          intro hhead
          rw [hstops.2 hhead] at hhead
          exact absurd hhead (by simp)
        refine ⟨hquote, ?_⟩
        rw [hrest, List.append_assoc, quotedRun_append, List.singleton_append,
          quotedRun_quote hhead]
      have hrun : isQuote c = true ∧ quotedRun c (rest ++ t) = rest := by
        rcases hsound with h | ⟨quote, content, hquote, hs⟩
        · exact hclosed h
        · rcases hstops.1 with rfl | h
          · rw [openRun, List.cons.injEq] at hs
            obtain ⟨rfl, hrest⟩ := hs
            refine ⟨hquote, ?_⟩
            rw [hrest, quotedRun_append, quotedRun, List.append_nil]
          · exact hclosed h
      rw [first, if_neg (by simp [not_isBlank_of_isQuote hrun.1]), if_pos hrun.1, hrun.2]

/-- **A segment is cut off in front of any text where it stops.** -/
theorem scan_append {a : Segment} {t : Text} (hsound : a.Sound) (hstops : a.Stops t) :
    scan (a.text ++ t) = a :: scan t := by
  obtain ⟨c, rest, htext⟩ := List.exists_cons_of_ne_nil (text_ne_nil_of_sound hsound)
  have hfirst := first_append hsound hstops htext
  rw [htext, List.cons_append, scan_cons, hfirst, ← List.cons_append, ← htext, List.drop_left]

theorem head?_dropWhile_eq_false {α : Type} (p : α → Bool) (s : List α) :
    ∀ c ∈ (s.dropWhile p).head?, p c = false := by
  intro c hc
  have h := List.head?_dropWhile_not p s
  rw [Option.mem_def.1 hc] at h
  simpa using h

/-- The first segment is sound and takes all that it can. -/
theorem first_spec (c : Char) (rest : Text) :
    ∃ t, c :: rest = (first c rest).text ++ t ∧ (first c rest).Sound ∧ (first c rest).Stops t := by
  unfold first
  split
  · next hblank =>
      refine ⟨rest.dropWhile Text.isBlank, by simp [text, List.takeWhile_append_dropWhile],
        ⟨by simp, fun d hd => ?_⟩, head?_dropWhile_eq_false _ _⟩
      rcases List.mem_cons.1 hd with rfl | hd
      · exact hblank
      · exact List.mem_takeWhile_imp hd
  · next hblank =>
      split
      · next hquote =>
          rcases exists_content c rest with ⟨content, hrest⟩ | ⟨content, more, hrest, hmore⟩
          · have hrun : quotedRun c rest = rest := by
              have h := quotedRun_append c content []
              rwa [List.append_nil, quotedRun, List.append_nil, ← hrest] at h
            have hopen : IsOpen (c :: rest) := ⟨c, content, hquote, by rw [hrest, openRun]⟩
            rw [hrun]
            exact ⟨[], by simp [text], Or.inr hopen, Or.inl rfl, fun _ => rfl⟩
          · have hrun : c :: quotedRun c rest = closedRun c content := by
              rw [hrest, quotedRun_append, quotedRun_quote hmore, closedRun, openRun,
                List.cons_append]
            have hclosed : IsClosed (closedRun c content) := ⟨c, content, hquote, rfl⟩
            rw [hrun]
            refine ⟨more, ?_, Or.inl hclosed, Or.inr hclosed, fun hhead => absurd hhead hmore⟩
            rw [hrest]
            simp [text, closedRun, openRun]
      · next hquote =>
          split
          · next hparen => exact ⟨rest, rfl, hparen, trivial⟩
          · next hparen =>
              refine ⟨rest.dropWhile isWordPart, by simp [text, List.takeWhile_append_dropWhile],
                ⟨by simp, fun d hd => ?_⟩, head?_dropWhile_eq_false _ _⟩
              rcases List.mem_cons.1 hd with rfl | hd
              · exact isWordPart_iff.2 ⟨by simpa using hblank, by simpa using hquote,
                  by simpa using hparen⟩
              · exact List.mem_takeWhile_imp hd

/-- Induction along the segments of a text, each of them sound and as long as it can be. -/
theorem scan_induction {motive : Text → Prop} (nil : motive [])
    (append : ∀ (a : Segment) (t : Text), a.Sound → a.Stops t → motive t → motive (a.text ++ t))
    (s : Text) : motive s := by
  induction h : s.length using Nat.strongRecOn generalizing s with
  | _ n ih =>
      cases s with
      | nil => exact nil
      | cons c rest =>
          obtain ⟨t, ht, hsound, hstops⟩ := first_spec c rest
          have hpos := List.length_pos_iff.2 (text_ne_nil_of_sound hsound)
          have hlength := congrArg List.length ht
          rw [List.length_append] at hlength
          rw [ht]
          exact append _ t hsound hstops (ih _ (by omega) _ rfl)

/-- The segments of a text are its text. -/
theorem flatMap_text_scan (s : Text) : (scan s).flatMap text = s := by
  induction s using scan_induction with
  | nil => rfl
  | append a t hsound hstops ih => rw [scan_append hsound hstops, List.flatMap_cons, ih]

theorem sound_of_mem_scan {s : Text} {a : Segment} (h : a ∈ scan s) : a.Sound := by
  induction s using scan_induction with
  | nil => exact absurd h List.not_mem_nil
  | append b t hsound hstops ih =>
      rw [scan_append hsound hstops] at h
      rcases List.mem_cons.1 h with rfl | h
      · exact hsound
      · exact ih h

/-! ### Blanks at the end -/

/-- A closed run ends in its quote; an open one may lose blanks and is open still. -/
theorem trimRight_quoted {s : Text} (h : IsClosed s ∨ IsOpen s) :
    IsClosed s ∧ Text.trimRight s = s ∨
      IsOpen s ∧ IsOpen (Text.trimRight s) ∧ (Text.trimRight s).head? = s.head? := by
  rcases h with ⟨quote, content, hquote, rfl⟩ | ⟨quote, content, hquote, rfl⟩
  · refine Or.inl ⟨⟨quote, content, hquote, rfl⟩, ?_⟩
    rw [closedRun, Text.trimRight_append_cons (not_isBlank_of_isQuote hquote)]
    rfl
  · rw [trimRight_openRun hquote]
    exact Or.inr ⟨⟨quote, content, hquote, rfl⟩, ⟨quote, Text.trimRight content, hquote, rfl⟩, rfl⟩

/-! ### Segments side by side -/

/-- A segment does not reach into another one behind it. -/
def Meets : Segment → Segment → Prop
  | space _, b => ∀ t, b ≠ space t
  | quoted s, b => IsClosed s ∧ ∀ t, b = quoted t → t.head? ≠ s.head?
  | paren _, _ => True
  | word _, b => ∀ t, b ≠ word t

/-- Sound segments, none of which reaches into the next one. -/
structure Canonical (segments : List Segment) : Prop where
  sound : ∀ a ∈ segments, a.Sound
  chain : segments.IsChain Meets

theorem Canonical.tail {a : Segment} {segments : List Segment} (h : Canonical (a :: segments)) :
    Canonical segments :=
  ⟨fun b hb => h.sound b (List.mem_cons_of_mem _ hb), (List.isChain_cons.1 h.chain).2⟩

/-- Whether a segment reaches into a quoted run depends on its quote only. -/
theorem Meets.quoted_congr {a : Segment} {s t : Text} (h : a.Meets (quoted s))
    (hhead : t.head? = s.head?) : a.Meets (quoted t) := by
  cases a with
  | space u => exact fun v hv => absurd hv (by simp)
  | quoted u =>
      refine ⟨h.1, fun v hv => ?_⟩
      obtain rfl : t = v := quoted.inj hv
      rw [hhead]
      exact h.2 s rfl
  | paren c => trivial
  | word u => exact fun v hv => absurd hv (by simp)

theorem isSpace_iff {a : Segment} : a.isSpace = true ↔ ∃ s, a = space s := by
  cases a <;> simp [isSpace]

/-- The kind of a segment shows in its first character. -/
theorem head?_text {a : Segment} (h : a.Sound) :
    ∃ c, a.text.head? = some c ∧ (Text.isBlank c = true ↔ ∃ s, a = space s) ∧
      (isQuote c = true ↔ ∃ s, a = quoted s) ∧ (isWordPart c = true ↔ ∃ s, a = word s) := by
  cases a with
  | space s =>
      obtain ⟨c, rest, rfl⟩ := List.exists_cons_of_ne_nil h.1
      have hc := h.2 c List.mem_cons_self
      refine ⟨c, rfl, ?_, ?_, ?_⟩
      · simp [hc]
      · simp only [reduceCtorEq, exists_false, iff_false]
        intro hquote
        rw [not_isBlank_of_isQuote hquote] at hc
        exact absurd hc (by simp)
      · simp [isWordPart_iff, hc]
  | quoted s =>
      obtain ⟨c, hhead, hc⟩ := exists_quote h
      exact ⟨c, hhead, by simp [not_isBlank_of_isQuote hc], by simp [hc],
        by simp [isWordPart_iff, hc]⟩
  | paren c =>
      have hc : isParen c = true := h
      exact ⟨c, rfl, by simp [not_isBlank_of_isParen hc], by simp [not_isQuote_of_isParen hc],
        by simp [isWordPart_iff, hc]⟩
  | word s =>
      obtain ⟨c, rest, rfl⟩ := List.exists_cons_of_ne_nil h.1
      have hc := h.2 c List.mem_cons_self
      obtain ⟨hblank, hquote, -⟩ := isWordPart_iff.1 hc
      exact ⟨c, rfl, by simp [hblank], by simp [hquote], by simp [hc]⟩

/-- Trimming the end of a text stops at its last segment that is no blank. -/
theorem trimRight_append_text {a : Segment} (h : a.Sound) (hspace : a.isSpace = false) (s : Text) :
    Text.trimRight (s ++ a.text) = s ++ Text.trimRight a.text := by
  obtain ⟨c, hhead, hblank, -, -⟩ := head?_text h
  obtain ⟨rest, hrest⟩ := List.head?_eq_some_iff.1 hhead
  have hc : Text.isBlank c = false := by
    rw [← Bool.not_eq_true, hblank, ← isSpace_iff, hspace]
    exact Bool.false_ne_true
  rw [hrest, Text.trimRight_append_cons hc]
  exact congrArg (s ++ ·) (Text.trimRight_append_cons hc [] rest).symm

theorem trimRight_text {a : Segment} (h : a.Sound) (hspace : a.isSpace = false)
    (hclosed : ∀ s, a = quoted s → IsClosed s) : Text.trimRight a.text = a.text := by
  refine Text.trimRight_eq_self_iff.2 fun c hc => ?_
  cases a with
  | space s => exact absurd hspace (by simp [isSpace])
  | quoted s =>
      obtain ⟨quote, content, hquote, rfl⟩ := hclosed s rfl
      obtain rfl : quote = c := by simpa [text, closedRun] using hc
      exact not_isBlank_of_isQuote hquote
  | paren d =>
      obtain rfl : d = c := by simpa [text] using hc
      exact not_isBlank_of_isParen h
  | word s => exact (isWordPart_iff.1 (h.2 c (List.mem_of_mem_getLast? hc))).1

/-- A segment stops in front of a text exactly if it does not reach into the first segment of it. -/
theorem stops_append_iff {a b : Segment} (hb : b.Sound) (t : Text) :
    a.Stops (b.text ++ t) ↔ a.Meets b := by
  obtain ⟨c, hhead, hblank, hquote, hword⟩ := head?_text hb
  have hhead' : (b.text ++ t).head? = some c := by rw [List.head?_append, hhead, Option.some_or]
  have hne : b.text ++ t ≠ [] := by simp [text_ne_nil_of_sound hb]
  cases a with
  | space s =>
      simp only [Stops, Meets, hhead', Option.mem_def, Option.some.injEq, forall_eq']
      rw [← Bool.not_eq_true, hblank, not_exists]
  | quoted s =>
      simp only [Stops, Meets, hhead', hne, false_or, imp_false]
      refine and_congr_right fun hclosed => ⟨?_, ?_⟩
      · rintro hdiffers u rfl
        rwa [show u.head? = some c from hhead]
      · intro hdiffers hsame
        obtain ⟨quote, content, hq, rfl⟩ := hclosed
        obtain rfl : c = quote := Option.some.inj hsame
        obtain ⟨u, rfl⟩ := hquote.1 hq
        exact hdiffers u rfl hhead
  | paren d => exact Iff.rfl
  | word s =>
      simp only [Stops, Meets, hhead', Option.mem_def, Option.some.injEq, forall_eq']
      rw [← Bool.not_eq_true, hword, not_exists]

/-- Nothing stands behind an open run. -/
theorem Canonical.getLast?_of_isOpen {segments : List Segment} (h : Canonical segments) {q : Text}
    (hopen : IsOpen q) (hq : quoted q ∈ segments) : segments.getLast? = some (quoted q) := by
  obtain ⟨front, behind, rfl⟩ := List.append_of_mem hq
  cases behind with
  | nil => rw [List.getLast?_concat]
  | cons b behind =>
      have hmeets : Meets (quoted q) b := (List.isChain_append_cons_cons.1 h.chain).2.1
      exact absurd hmeets.1 hopen.not_isClosed

/-- **A text is cut into canonical segments.** -/
theorem canonical_scan (s : Text) : Canonical (scan s) := by
  refine ⟨fun a ha => sound_of_mem_scan ha, ?_⟩
  induction s using scan_induction with
  | nil => exact List.IsChain.nil
  | append a t hsound hstops ih =>
      rw [scan_append hsound hstops]
      refine List.isChain_cons.2 ⟨fun b hb => ?_, ih⟩
      obtain ⟨rest, hrest⟩ := List.head?_eq_some_iff.1 hb
      have ht := flatMap_text_scan t
      rw [hrest, List.flatMap_cons] at ht
      rw [← ht] at hstops
      exact (stops_append_iff (sound_of_mem_scan (List.mem_of_mem_head? hb)) _).1 hstops

/-- **Canonical segments are what their text is cut into.** -/
theorem scan_flatMap_text {segments : List Segment} (h : Canonical segments) :
    scan (segments.flatMap text) = segments := by
  induction segments with
  | nil => rfl
  | cons a segments ih =>
      have hrest := h.tail
      have hstops : a.Stops (segments.flatMap text) := by
        cases segments with
        | nil => exact stops_nil a
        | cons b segments =>
            rw [List.flatMap_cons, stops_append_iff (hrest.sound b List.mem_cons_self)]
            exact (List.isChain_cons.1 h.chain).1 b rfl
      rw [List.flatMap_cons, scan_append (h.sound a List.mem_cons_self) hstops, ih hrest]

/-- The conditions on canonical segments one by one: which neighbours there are not. -/
structure WellCut (segments : List Segment) : Prop where
  sound : ∀ a ∈ segments, a.Sound
  spaces : ∀ s t, ¬ [space s, space t] <:+: segments
  words : ∀ s t, ¬ [word s, word t] <:+: segments
  /-- The second of two quoted runs has another quote. -/
  quotes : ∀ s t, [quoted s, quoted t] <:+: segments → t.head? ≠ s.head?
  /-- A quoted run in front of another segment is closed. -/
  closed : ∀ s b, [quoted s, b] <:+: segments → IsClosed s

theorem isChain_meets_iff {segments : List Segment} :
    segments.IsChain Meets ↔ ∀ a b, [a, b] <:+: segments → a.Meets b := by
  rw [List.isChain_iff_forall_rel_of_append_cons_cons]
  constructor
  · rintro h a b ⟨front, behind, hsegments⟩
    exact @h a b front behind (by rw [← hsegments, List.append_assoc]; rfl)
  · intro h a b front behind hsegments
    exact h a b ⟨front, behind, by rw [hsegments, List.append_assoc]; rfl⟩

theorem canonical_iff_wellCut {segments : List Segment} : Canonical segments ↔ WellCut segments := by
  constructor
  · intro h
    have hmeets := isChain_meets_iff.1 h.chain
    exact ⟨h.sound, fun s t hst => hmeets _ _ hst t rfl, fun s t hst => hmeets _ _ hst t rfl,
      fun s t hst => (hmeets _ _ hst).2 t rfl, fun s b hsb => (hmeets _ _ hsb).1⟩
  · intro h
    refine ⟨h.sound, isChain_meets_iff.2 fun a b hab => ?_⟩
    cases a with
    | space s =>
        rintro t rfl
        exact h.spaces s t hab
    | quoted s =>
        refine ⟨h.closed s b hab, ?_⟩
        rintro t rfl
        exact h.quotes s t hab
    | paren c => trivial
    | word s =>
        rintro t rfl
        exact h.words s t hab

/-- **Texts and segments correspond.**  A text is cut into segments exactly if their texts make it
up and no two of them side by side would be one; and no segment is empty. -/
theorem scan_eq_iff (s : Text) (segments : List Segment) :
    (scan s = segments ↔ segments.flatMap text = s ∧ WellCut segments) ∧
      ∀ a ∈ scan s, a.text ≠ [] := by
  refine ⟨⟨?_, ?_⟩, fun a ha => text_ne_nil_of_sound (sound_of_mem_scan ha)⟩
  · rintro rfl
    exact ⟨flatMap_text_scan s, canonical_iff_wellCut.1 (canonical_scan s)⟩
  · rintro ⟨rfl, hcut⟩
    exact scan_flatMap_text (canonical_iff_wellCut.2 hcut)

/-! ### A quoted run in front of a text -/

/-- The first segment is cut off where it stops. -/
theorem exists_of_scan_eq_cons {s : Text} {a : Segment} {segments : List Segment}
    (h : scan s = a :: segments) :
    ∃ t, s = a.text ++ t ∧ a.Sound ∧ a.Stops t ∧ segments = scan t := by
  cases s with
  | nil => exact absurd h (by simp [scan, scanFrom])
  | cons c rest =>
      obtain ⟨t, ht, hsound, hstops⟩ := first_spec c rest
      rw [ht, scan_append hsound hstops, List.cons.injEq] at h
      obtain ⟨rfl, rfl⟩ := h
      exact ⟨t, ht, hsound, hstops, rfl⟩

/-- A text that starts with a quote starts with a quoted run. -/
theorem exists_quoted_of_head {s : Text} {c : Char} (hs : s.head? = some c)
    (hc : isQuote c = true) :
    ∃ q segments, scan s = quoted q :: segments ∧ q.head? = some c := by
  have hne : scan s ≠ [] := by
    intro hnil
    rw [← flatMap_text_scan s, hnil] at hs
    exact absurd hs (by simp)
  obtain ⟨a, segments, hscan⟩ := List.exists_cons_of_ne_nil hne
  obtain ⟨t, rfl, hsound, -, -⟩ := exists_of_scan_eq_cons hscan
  obtain ⟨d, hhead, -, hquote, -⟩ := head?_text hsound
  rw [List.head?_append, hhead, Option.some_or] at hs
  obtain rfl : d = c := Option.some.inj hs
  obtain ⟨q, rfl⟩ := hquote.1 hc
  exact ⟨q, segments, hscan, hhead⟩

/-- A closed run in front of one with the same quote is the front of a longer run: the two quotes
between them are read as a doubled one. -/
theorem closedRun_append {quote : Char} (content content' : Text) :
    closedRun quote content ++ openRun quote content' =
      openRun quote (content ++ quote :: content') := by
  simp [closedRun, openRun, Text.replaceChar]

theorem IsClosed.append {q q' : Text} (h : IsClosed q) (hhead : q'.head? = q.head?) :
    (IsClosed q' → IsClosed (q ++ q')) ∧ (IsOpen q' → IsOpen (q ++ q')) := by
  obtain ⟨c, content, hc, rfl⟩ := h
  constructor
  · rintro ⟨d, content', -, rfl⟩
    obtain rfl : d = c := Option.some.inj hhead
    refine ⟨d, content ++ d :: content', hc, ?_⟩
    have hlast : closedRun d content' = openRun d content' ++ [d] := rfl
    rw [hlast, ← List.append_assoc, closedRun_append, closedRun]
  · rintro ⟨d, content', -, rfl⟩
    obtain rfl : d = c := Option.some.inj hhead
    exact ⟨d, content ++ d :: content', hc, closedRun_append content content'⟩

/-- A closed run is cut off in front of anything but its own quote. -/
theorem scan_closed_append {q s : Text} (h : IsClosed q) (hhead : s.head? ≠ q.head?) :
    scan (q ++ s) = quoted q :: scan s :=
  scan_append (a := quoted q) (Or.inl h) ⟨Or.inr h, fun hsame => absurd hsame hhead⟩

/-- In front of a run with the same quote it becomes a part of that run. -/
theorem scan_closed_append_quoted {q q' s : Text} {segments : List Segment} (h : IsClosed q)
    (hs : scan s = quoted q' :: segments) (hhead : q'.head? = q.head?) :
    scan (q ++ s) = quoted (q ++ q') :: segments := by
  obtain ⟨t, rfl, hsound, hstops, rfl⟩ := exists_of_scan_eq_cons hs
  obtain ⟨hclosed, hopen⟩ := h.append hhead
  have hne : q ≠ [] := by
    obtain ⟨c, content, -, rfl⟩ := h
    simp [closedRun, openRun]
  have hhead' : (q ++ q').head? = q'.head? := by rw [List.head?_append_of_ne_nil _ hne, hhead]
  have hlong : (quoted (q ++ q')).Stops t :=
    ⟨hstops.1.imp_right hclosed, fun hsame => hstops.2 (hsame.trans hhead')⟩
  rw [text, ← List.append_assoc]
  exact scan_append (a := quoted (q ++ q')) (Or.imp hclosed hopen hsound) hlong

end Segment

end Pushdown
