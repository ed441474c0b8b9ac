/-
**What is quoted in a text without its empty groups.**

A pass removes groups in the texts between the quoted runs and puts the pieces together again.
Where all of the text between two runs goes, the closing quote of the first one meets the opening
quote of the second one.  If the quotes are of one kind they are read as a doubled quote, and the
two runs become one.  This never happens to other runs, and runs never come apart, so what is
quoted stays exactly if between no two neighbours with the same quote everything is removed.

Main definitions:

* `Cleanup.quotations`, `Cleanup.runs` — the quoted runs, and those with the text behind each;
* `Cleanup.Laid`, `Cleanup.joined` — runs that can stand in a text, and their text;
* `Cleanup.glue`, `Cleanup.Apart` — how such runs are read, and when they are read as they are;
* `Cleanup.Lasting` — something is left between two runs with the same quote.

Main results:

* `Cleanup.read_joined` — **laid runs are read as themselves, glued where they touch**;
* `Cleanup.read_stripPass` — what one pass makes of the runs of a text;
* `Cleanup.quotations_stripGroups_iff` — **when all quotations stay**.
-/

import Pushdown.Proofs.Cleanup.Rounds
import Pushdown.Proofs.Cleanup.Segment

set_option autoImplicit false

namespace Pushdown

namespace Cleanup

open Segment (scan Sound Canonical IsClosed IsOpen isQuote)

/-! ### Quoted runs and what stands behind them -/

/-- The quoted runs in order. -/
def quotations (segments : List Segment) : List Text :=
  segments.filterMap fun s =>
    match s with
    | .quoted q => some q
    | _ => none

/-- The quoted runs in order, each with the text behind it up to the next one. -/
def runs : List Segment → List (Text × Text)
  | [] => []
  | .quoted q :: rest => (q, opening rest) :: runs rest
  | _ :: rest => runs rest

theorem runs_cons {s : Segment} (hs : ∀ q, s ≠ .quoted q) (segments : List Segment) :
    runs (s :: segments) = runs segments := by
  cases s with
  | quoted q => exact absurd rfl (hs q)
  | space t => rfl
  | paren c => rfl
  | word t => rfl

theorem quotations_eq (segments : List Segment) :
    quotations segments = (runs segments).map Prod.fst := by
  induction segments with
  | nil => rfl
  | cons s segments ih => cases s <;> simpa [quotations, runs] using ih

/-- A text without quotes. -/
def Unquoted (t : Text) : Prop := ∀ c ∈ t, isQuote c = false

/-- Quoted runs with texts behind them that are read as such: only the last run may be open. -/
inductive Laid : List (Text × Text) → Prop
  | nil : Laid []
  | unclosed {q : Text} : IsOpen q → Laid [(q, [])]
  | cons {q t : Text} {rs : List (Text × Text)} :
      IsClosed q → Unquoted t → Laid rs → Laid ((q, t) :: rs)

/-- The text of runs. -/
def joined (rs : List (Text × Text)) : Text := rs.flatMap fun r => r.1 ++ r.2

theorem unquoted_text {s : Segment} (h : s.Sound) (hs : ∀ q, s ≠ .quoted q) : Unquoted s.text := by
  intro c hc
  cases s with
  | quoted q => exact absurd rfl (hs q)
  | space t =>
      rw [← Bool.not_eq_true]
      intro hquote
      exact absurd ((h.2 c hc).symm.trans (Segment.not_isBlank_of_isQuote hquote)) (by simp)
  | paren d =>
      obtain rfl : c = d := List.mem_singleton.1 hc
      exact Segment.not_isQuote_of_isParen h
  | word t => exact (Segment.isWordPart_iff.1 (h.2 c hc)).2.1

theorem unquoted_opening {segments : List Segment} (h : ∀ a ∈ segments, a.Sound) :
    Unquoted (opening segments) := by
  induction segments using Segment.quoted_induction with
  | nil => exact fun c hc => absurd hc (by simp [opening, stretches])
  | quoted q segments _ => exact fun c hc => absurd hc (by simp [opening, stretches])
  | other s segments hs ih =>
      rw [opening_cons hs]
      intro c hc
      rcases List.mem_append.1 hc with hc | hc
      · exact unquoted_text (h s List.mem_cons_self) hs c hc
      · exact ih (fun a ha => h a (List.mem_cons_of_mem _ ha)) c hc

/-- The runs of a text are laid. -/
theorem laid_runs {segments : List Segment} (h : Canonical segments) : Laid (runs segments) := by
  induction segments using Segment.quoted_induction with
  | nil => exact Laid.nil
  | quoted q segments ih =>
      rcases (h.sound _ List.mem_cons_self : IsClosed q ∨ IsOpen q) with hclosed | hopen
      · exact Laid.cons hclosed (unquoted_opening h.tail.sound) (ih h.tail)
      · cases segments with
        | nil => exact Laid.unclosed hopen
        | cons a segments =>
            have hmeets := (List.isChain_cons.1 h.chain).1 a rfl
            exact absurd hmeets.1 hopen.not_isClosed
  | other s segments hs ih =>
      rw [runs_cons hs]
      exact ih h.tail

/-- A text is the text in front of its first quoted run and its runs. -/
theorem opening_append_joined (segments : List Segment) :
    opening segments ++ joined (runs segments) = segments.flatMap Segment.text := by
  induction segments using Segment.quoted_induction with
  | nil => rfl
  | quoted q segments ih =>
      rw [List.flatMap_cons, ← ih, runs, joined, List.flatMap_cons, ← joined, List.append_assoc]
      rfl
  | other s segments hs ih =>
      rw [opening_cons hs, runs_cons hs, List.flatMap_cons, ← ih, List.append_assoc]

/-! ### How laid runs are read -/

/-- What is read where runs with texts behind them stand side by side: a run with nothing behind it
becomes the front of a next one with the same quote. -/
def glue : List (Text × Text) → List (Text × Text)
  | [] => []
  | (q, t) :: rest =>
      match glue rest with
      | [] => [(q, t)]
      | (q', t') :: rest =>
          if q.head? = q'.head? ∧ t = [] then (q ++ q', t') :: rest
          else (q, t) :: (q', t') :: rest

/-- Two runs side by side are read as two. -/
def Apart (a b : Text × Text) : Prop := a.1.head? = b.1.head? → a.2 ≠ []

/-- Runs stay if any two neighbours are read as two; else there are fewer of them. -/
theorem glue_cases (rs : List (Text × Text)) :
    (rs.IsChain Apart ∧ glue rs = rs) ∨
      (¬ rs.IsChain Apart ∧ (glue rs).length < rs.length) := by
  induction rs with
  | nil => exact Or.inl ⟨List.IsChain.nil, rfl⟩
  | cons r rs ih =>
      obtain ⟨q, t⟩ := r
      rcases ih with ⟨hchain, heq⟩ | ⟨hnot, hlt⟩
      · cases rs with
        | nil => exact Or.inl ⟨List.IsChain.singleton _, rfl⟩
        | cons r' rs =>
            obtain ⟨q', t'⟩ := r'
            rw [glue, heq, List.isChain_cons_cons]
            by_cases hglued : q.head? = q'.head? ∧ t = []
            · refine Or.inr ⟨fun h => h.1 hglued.1 hglued.2, ?_⟩
              simp [hglued]
            · refine Or.inl ⟨⟨fun hhead ht => hglued ⟨hhead, ht⟩, hchain⟩, ?_⟩
              simp [hglued]
      · refine Or.inr ⟨fun h => hnot (List.isChain_cons.1 h).2, ?_⟩
        rw [glue]
        split
        · next hnil =>
            rw [hnil] at hlt
            simpa using hlt
        · next q' t' rest hcons =>
            rw [hcons] at hlt
            split
            · exact Nat.lt_succ_of_lt hlt
            · exact Nat.succ_lt_succ hlt

theorem length_glue_le (rs : List (Text × Text)) : (glue rs).length ≤ rs.length := by
  rcases glue_cases rs with ⟨-, heq⟩ | ⟨-, hlt⟩
  · rw [heq]
  · exact Nat.le_of_lt hlt

/-- Text without quotes in front of a quoted run, or of nothing, is read as such. -/
theorem read_append {t s : Text} (ht : Unquoted t) (hs : ∀ c ∈ s.head?, isQuote c = true) :
    opening (scan (t ++ s)) = t ++ opening (scan s) ∧ runs (scan (t ++ s)) = runs (scan s) := by
  induction t using Segment.scan_induction with
  | nil => exact ⟨rfl, rfl⟩
  | append a t hsound hstops ih =>
      have hrest : Unquoted t := fun c hc => ht c (List.mem_append_right _ hc)
      have hhead : ∀ c ∈ (t ++ s).head?, c ∈ t.head? ∨ isQuote c = true := by
        intro c hc
        cases t with
        | nil => exact Or.inr (hs c hc)
        | cons d t => exact Or.inl hc
      have ha : (∀ q, a ≠ .quoted q) ∧ a.Stops (t ++ s) := by
        cases a with
        | quoted q =>
            obtain ⟨c, hc, hquote⟩ := Segment.exists_quote hsound
            have hmem : c ∈ q ++ t := List.mem_append_left _ (List.mem_of_mem_head? hc)
            exact absurd (hquote.symm.trans (ht c hmem)) (by simp)
        | space u =>
            exact ⟨by simp, fun c hc =>
              (hhead c hc).elim (hstops c) Segment.not_isBlank_of_isQuote⟩
        | paren c => exact ⟨by simp, trivial⟩
        | word u =>
            exact ⟨by simp, fun c hc => (hhead c hc).elim (hstops c) fun hquote => by
              simp [Segment.isWordPart, hquote]⟩
      obtain ⟨hopening, hruns⟩ := ih hrest
      rw [List.append_assoc, Segment.scan_append hsound ha.2, opening_cons ha.1, runs_cons ha.1,
        hopening, hruns]
      exact ⟨(List.append_assoc _ _ _).symm, rfl⟩

theorem joined_cons (q t : Text) (rs : List (Text × Text)) :
    joined ((q, t) :: rs) = q ++ (t ++ joined rs) := by
  rw [joined, List.flatMap_cons, ← joined, List.append_assoc]

/-- A text of runs starts with the quote of the first one. -/
theorem head?_joined {q t : Text} (hq : IsClosed q ∨ IsOpen q) (rs : List (Text × Text)) :
    (joined ((q, t) :: rs)).head? = q.head? := by
  obtain ⟨c, hhead, -⟩ := Segment.exists_quote hq
  rw [joined_cons, List.head?_append, hhead, Option.some_or]

theorem Laid.head {q t : Text} {rs : List (Text × Text)} (h : Laid ((q, t) :: rs)) :
    IsClosed q ∨ IsOpen q := by
  cases h with
  | unclosed hopen => exact Or.inr hopen
  | cons hclosed _ _ => exact Or.inl hclosed

theorem isQuote_head?_joined {rs : List (Text × Text)} (h : Laid rs) :
    ∀ c ∈ (joined rs).head?, isQuote c = true := by
  cases rs with
  | nil => simp [joined]
  | cons r rs =>
      obtain ⟨c, hhead, hc⟩ := Segment.exists_quote h.head
      rw [head?_joined h.head, hhead]
      simpa using hc

theorem eq_nil_of_head? {t s : Text} {c : Char} (ht : Unquoted t) (hc : isQuote c = true)
    (h : (t ++ s).head? = some c) : t = [] := by
  cases t with
  | nil => rfl
  | cons d t =>
      obtain rfl : d = c := Option.some.inj h
      exact absurd (hc.symm.trans (ht d List.mem_cons_self)) (by simp)

/-- A text with nothing in front of its first run starts with the quote of that run. -/
theorem head?_of_runs {s q t : Text} {rs : List (Text × Text)} (hopening : opening (scan s) = [])
    (hruns : runs (scan s) = (q, t) :: rs) : s.head? = q.head? := by
  have hlaid := laid_runs (Segment.canonical_scan s)
  have htext := opening_append_joined (scan s)
  rw [hruns] at hlaid
  rw [hopening, hruns, Segment.flatMap_text_scan, List.nil_append] at htext
  rw [← htext, head?_joined hlaid.head]

/-- **Laid runs are read as themselves, glued where they touch.** -/
theorem read_joined {rs : List (Text × Text)} (h : Laid rs) :
    opening (scan (joined rs)) = [] ∧ runs (scan (joined rs)) = glue rs := by
  induction h with
  | nil => exact ⟨rfl, rfl⟩
  | @unclosed q hopen =>
      have hscan : scan (q ++ []) = .quoted q :: scan [] :=
        Segment.scan_append (a := .quoted q) (Or.inr hopen) (Segment.stops_nil _)
      have hjoined : joined [(q, [])] = q ++ [] := by rw [joined_cons]; rfl
      rw [hjoined, hscan]
      exact ⟨rfl, rfl⟩
  | @cons q t rs hclosed ht hrest ih =>
      obtain ⟨hopening, hruns⟩ := ih
      obtain ⟨hfront, hbehind⟩ := read_append ht (isQuote_head?_joined hrest)
      rw [hopening, List.append_nil] at hfront
      obtain ⟨d, hd, hquote⟩ := Segment.exists_quote (Or.inl hclosed)
      rw [joined_cons, glue]
      by_cases hhead : (t ++ joined rs).head? = q.head?
      · -- The next run starts right behind this one and with its quote.
        obtain rfl := eq_nil_of_head? ht hquote (hhead.trans hd)
        rw [List.nil_append] at hhead ⊢
        obtain ⟨q', segments, hscan, hq'⟩ :=
          Segment.exists_quoted_of_head (hhead.trans hd) hquote
        rw [hscan, runs] at hruns
        rw [Segment.scan_closed_append_quoted hclosed hscan (hq'.trans hd.symm), ← hruns]
        exact ⟨rfl, by simp [runs, hd, hq']⟩
      · rw [Segment.scan_closed_append hclosed hhead]
        refine ⟨rfl, ?_⟩
        rw [runs, hfront, hbehind, hruns]
        split
        · next hnil => rw [hnil]
        · next q' t' rest hcons =>
            have hnext := head?_of_runs hopening (hruns.trans hcons)
            rw [if_neg, hcons]
            rintro ⟨hsame, rfl⟩
            exact hhead (hnext.trans hsame.symm)

/-! ### One pass -/

theorem mem_replaceFrom {word replacement : Text} {inWord : Bool} {skip : Nat} {s : Text}
    {c : Char} (h : c ∈ replaceFrom word replacement inWord skip s) :
    c ∈ s ∨ c ∈ replacement := by
  induction s generalizing inWord skip with
  | nil => exact absurd h (by simp [replaceFrom])
  | cons d s ih =>
      cases skip with
      | succ skip =>
          rw [replaceFrom] at h
          exact (ih h).imp_left (List.mem_cons_of_mem d)
      | zero =>
          rw [replaceFrom] at h
          split at h
          · rcases List.mem_append.1 h with h | h
            · exact Or.inr h
            · exact (ih h).imp_left (List.mem_cons_of_mem d)
          · rcases List.mem_cons.1 h with rfl | h
            · exact Or.inl List.mem_cons_self
            · exact (ih h).imp_left (List.mem_cons_of_mem d)

/-- A pass over a stretch brings in no quote. -/
theorem unquoted_replaceGroups {t : Text} (h : Unquoted t) : Unquoted (replaceGroups t) := by
  have hwhere : ∀ c ∈ whereWord, isQuote c = false := by decide
  intro c hc
  rcases mem_replaceFrom hc with hc | hc
  · rcases mem_replaceFrom hc with hc | hc
    · exact h c hc
    · exact absurd hc (by simp)
  · exact hwhere c hc

theorem Laid.map {rs : List (Text × Text)} (h : Laid rs) :
    Laid (rs.map (Prod.map id replaceGroups)) := by
  induction h with
  | nil => exact Laid.nil
  | unclosed hopen => exact Laid.unclosed hopen
  | cons hclosed ht _ ih => exact Laid.cons hclosed (unquoted_replaceGroups ht) ih

theorem snd_stripSegments (segments : List Segment) :
    (stripSegments segments).2 = joined ((runs segments).map (Prod.map id replaceGroups)) := by
  induction segments using Segment.quoted_induction with
  | nil => rfl
  | quoted q segments ih =>
      rw [runs, List.map_cons, Prod.map, joined_cons, ← ih, ← fst_stripSegments,
        ← List.append_assoc]
      rfl
  | other s segments hs ih => rw [stripSegments_cons hs, runs_cons hs, ih]

theorem stripPass_eq (s : Text) :
    stripPass s = replaceGroups (opening (scan s)) ++
      joined ((runs (scan s)).map (Prod.map id replaceGroups)) := by
  rw [stripPass, ← snd_stripSegments, ← fst_stripSegments]

/-- **A pass works on each stretch, and the runs are glued where nothing is left between them.** -/
theorem read_stripPass (s : Text) :
    opening (scan (stripPass s)) = replaceGroups (opening (scan s)) ∧
      runs (scan (stripPass s)) = glue ((runs (scan s)).map (Prod.map id replaceGroups)) := by
  have hcanonical := Segment.canonical_scan s
  have hlaid := (laid_runs hcanonical).map
  obtain ⟨hopening, hruns⟩ := read_append (unquoted_replaceGroups
    (unquoted_opening hcanonical.sound)) (isQuote_head?_joined hlaid)
  obtain ⟨hnone, hglue⟩ := read_joined hlaid
  rw [stripPass_eq, hopening, hruns, hnone, hglue, List.append_nil]
  exact ⟨rfl, rfl⟩

/-- A text without quotes is one stretch. -/
theorem stripPass_of_unquoted {t : Text} (h : Unquoted t) : stripPass t = replaceGroups t := by
  obtain ⟨hopening, hruns⟩ := read_append (s := []) h (by simp)
  have hnil : opening (scan []) = [] ∧ runs (scan []) = [] := ⟨rfl, rfl⟩
  rw [hnil.1, List.append_nil] at hopening
  rw [hnil.2, List.append_nil] at hruns
  rw [stripPass_eq, hopening, hruns, List.map_nil, joined, List.flatMap_nil, List.append_nil]

/-! ### All passes -/

theorem stripGroups_replaceGroups {t : Text} (h : Unquoted t) :
    stripGroups (replaceGroups t) = stripGroups t := by
  rw [← stripPass_of_unquoted h, stripGroups_stripPass]

theorem length_runs_stripGroups_le (s : Text) :
    (runs (scan (stripGroups s))).length ≤ (runs (scan s)).length := by
  induction s using pass_induction with
  | done s hpass => rw [stripGroups_of_stripPass hpass]
  | pass s hpass ih =>
      have hglue := length_glue_le ((runs (scan s)).map (Prod.map id replaceGroups))
      rw [List.length_map, ← (read_stripPass s).2] at hglue
      rw [stripGroups_stripPass] at ih
      exact Nat.le_trans ih hglue

theorem Laid.unquoted {rs : List (Text × Text)} (h : Laid rs) : ∀ r ∈ rs, Unquoted r.2 := by
  induction h with
  | nil => simp
  | unclosed _ => simp [Unquoted]
  | cons _ ht _ ih => exact List.forall_mem_cons.2 ⟨ht, ih⟩

/-- Of a stretch between two runs with the same quote something is left. -/
def Lasting (a b : Text × Text) : Prop := a.1.head? = b.1.head? → stripGroups a.2 ≠ []

theorem Lasting.apart {a b : Text × Text} (h : Lasting a b) : Apart a b := by
  intro hhead hnil
  refine h hhead ?_
  rw [hnil]
  exact stripGroups_of_stripPass rfl

/-- What is left of a stretch does not depend on a pass that was made already. -/
theorem lasting_map_iff {rs : List (Text × Text)} (h : Laid rs) :
    (rs.map (Prod.map id replaceGroups)).IsChain Lasting ↔ rs.IsChain Lasting := by
  rw [List.isChain_map]
  refine List.IsChain.iff_of_mem_imp fun a b ha _ => ?_
  rw [Lasting, Lasting, Prod.map_snd, stripGroups_replaceGroups (h.unquoted a ha)]
  rfl

/-- Where a pass leaves a text, its runs are read as they are and nothing goes between them. -/
theorem lasting_of_stripPass {s : Text} (hpass : stripPass s = s) :
    (runs (scan s)).IsChain Lasting := by
  have hruns := (read_stripPass s).2
  rw [hpass] at hruns
  rcases glue_cases ((runs (scan s)).map (Prod.map id replaceGroups)) with
    ⟨hchain, heq⟩ | ⟨-, hlt⟩
  · have hsame := hruns.trans heq
    have hfixed := List.map_inj_left.1 ((List.map_id _).trans hsame)
    rw [← hsame] at hchain
    refine hchain.imp_of_mem_imp fun a b ha _ hapart hhead => ?_
    have hunquoted := (laid_runs (Segment.canonical_scan s)).unquoted a ha
    have hstretch : stripPass a.2 = a.2 := by
      rw [stripPass_of_unquoted hunquoted]
      exact (congrArg Prod.snd (hfixed a ha)).symm
    rw [stripGroups_of_stripPass hstretch]
    exact hapart hhead
  · rw [← hruns, List.length_map] at hlt
    exact absurd hlt (Nat.lt_irrefl _)

/-- **Quotations stay exactly if no stretch between two runs with the same quote goes as a
whole.** -/
theorem quotations_stripGroups_iff (s : Text) :
    quotations (scan (stripGroups s)) = quotations (scan s) ↔
      (runs (scan s)).IsChain Lasting := by
  induction s using pass_induction with
  | done s hpass =>
      rw [stripGroups_of_stripPass hpass]
      exact iff_of_true rfl (lasting_of_stripPass hpass)
  | pass s hpass ih =>
      have hlaid := laid_runs (Segment.canonical_scan s)
      have hruns := (read_stripPass s).2
      rw [stripGroups_stripPass] at ih
      rcases glue_cases ((runs (scan s)).map (Prod.map id replaceGroups)) with
        ⟨-, heq⟩ | ⟨hnot, hlt⟩
      · rw [heq] at hruns
        have hquotations : quotations (scan (stripPass s)) = quotations (scan s) := by
          rw [quotations_eq, quotations_eq, hruns, List.map_map]
          rfl
        rw [hquotations, hruns, lasting_map_iff hlaid] at ih
        exact ih
      · -- Two runs became one in this pass, and no later pass takes them apart.
        refine iff_of_false (fun hsame => ?_) fun hlasting => hnot ?_
        · have hle := length_runs_stripGroups_le (stripPass s)
          have hlength := congrArg List.length hsame
          rw [quotations_eq, quotations_eq, List.length_map, List.length_map] at hlength
          rw [List.length_map] at hlt
          rw [stripGroups_stripPass, hruns, hlength] at hle
          exact absurd hlt (Nat.not_lt.2 hle)
        · exact ((lasting_map_iff hlaid).2 hlasting).imp fun _ _ h => h.apart

/-- Two literals with nothing but an empty group between them. -/
def touchingStatement : Text := "SELECT 'a'AND()'b'".toList

/-- Both literals are closed, and they become one. -/
theorem quotations_touchingStatement :
    (∀ q ∈ quotations (scan touchingStatement), IsClosed q) ∧
      quotations (scan touchingStatement) = ["'a'".toList, "'b'".toList] ∧
      quotations (scan (stripGroups touchingStatement)) = ["'a''b'".toList] ∧
      quotations (scan (stripGroups touchingStatement)) ≠
        quotations (scan touchingStatement) := by
  have hquotations : quotations (scan touchingStatement) = ["'a'".toList, "'b'".toList] := by
    decide +kernel
  have hstripped : quotations (scan (stripGroups touchingStatement)) = ["'a''b'".toList] := by
    decide +kernel
  have ha : IsClosed "'a'".toList := ⟨'\'', "a".toList, by decide, by decide⟩
  have hb : IsClosed "'b'".toList := ⟨'\'', "b".toList, by decide, by decide⟩
  refine ⟨?_, hquotations, hstripped, by rw [hquotations, hstripped]; decide⟩
  rw [hquotations]
  simpa using ⟨ha, hb⟩

end Cleanup

end Pushdown
