/-
**Texts with gaps.**

To replace a fixed text everywhere is to cut it out and to fill the gaps with another one.  Where
the gaps are can be read off the result: two texts with gaps that give the same text under one
filling and the same text under another one are equal, as long as the fillings differ in a character
that both of them have.

Main definitions:

* `Text.Gapped` — a text with gaps, and `Text.Gapped.fill`, the text with the gaps filled;
* `Text.cut` — a text with gaps in place of the occurrences of another one;
* `Text.Diverges` — two texts differ in a character that both have.

Main results:

* `Text.replaceAll_eq_fill` — replacing is cutting and filling;
* `Text.Gapped.eq_of_fill` — two fillings determine the gaps;
* `Text.replaceAll_eq_fill_iff` — **which gaps are filled by a replacement**;
* `Text.cut_fill_of_not_mem` — when the gaps are the only occurrences;
* `Text.replaceAll_eq_self` — a text without the occurrence stays.
-/

import Pushdown.Proofs.Text.Splitting

set_option autoImplicit false

namespace Pushdown

namespace Text

/-! ### Gaps -/

/-- A text with gaps. -/
inductive Gapped where
  /-- A text without a gap. -/
  | text (s : Text)
  /-- A text, a gap and the rest. -/
  | gap (s : Text) (rest : Gapped)
  deriving DecidableEq, Repr

namespace Gapped

/-- The text with the same text in every gap. -/
def fill (x : Text) : Gapped → Text
  | text s => s
  | gap s rest => s ++ x ++ fill x rest

/-- One text with gaps behind the other. -/
def append : Gapped → Gapped → Gapped
  | text s, text t => text (s ++ t)
  | text s, gap t rest => gap (s ++ t) rest
  | gap s rest, g => gap s (append rest g)

instance : Append Gapped := ⟨append⟩

/-- Texts with gaps, with `sep` between neighbours. -/
def joinWith (sep : Text) : List Gapped → Gapped
  | [] => text []
  | [g] => g
  | g :: gs => g ++ text sep ++ joinWith sep gs

@[simp] theorem fill_text (x s : Text) : (text s).fill x = s := rfl

@[simp] theorem fill_append (x : Text) (g h : Gapped) : (g ++ h).fill x = g.fill x ++ h.fill x := by
  change (append g h).fill x = _
  induction g with
  | text s => cases h <;> simp [append, fill]
  | gap s rest ih => simp [append, fill, ih]

@[simp] theorem fill_joinWith (x sep : Text) (gs : List Gapped) :
    (joinWith sep gs).fill x = Text.joinWith sep (gs.map (fill x)) := by
  induction gs with
  | nil => rfl
  | cons g gs ih =>
      cases gs with
      | nil => rfl
      | cons g' gs =>
          rw [joinWith, fill_append, fill_append, ih]
          · rfl
          · simp

/-- The texts around the gaps. -/
def pieces : Gapped → List Text
  | text s => [s]
  | gap s rest => s :: rest.pieces

/-- With a filling that is not empty, only the empty text is filled to it. -/
theorem fill_eq_nil_iff {x : Text} (hx : x ≠ []) (g : Gapped) : g.fill x = [] ↔ g = text [] := by
  cases g <;> simp [fill, hx]

end Gapped

/-! ### Cutting -/

/-- The text with gaps in place of the occurrences of `needle`, taken from the left without overlap;
`skip` characters of the current occurrence are still to be passed over. -/
def cutFrom (needle : Text) : Nat → Text → Gapped
  | _, [] => .text []
  | skip + 1, _ :: rest => cutFrom needle skip rest
  | 0, c :: rest =>
      if needle.isPrefixOf (c :: rest) then .gap [] (cutFrom needle (needle.length - 1) rest)
      else .text [c] ++ cutFrom needle 0 rest

/-- The text with gaps in place of the occurrences of `needle`, taken from the left without
overlap. -/
def cut (needle s : Text) : Gapped := cutFrom needle 0 s

theorem replaceFrom_eq_fill (needle replacement : Text) (skip : Nat) (s : Text) :
    replaceFrom needle replacement skip s = (cutFrom needle skip s).fill replacement := by
  induction s generalizing skip with
  | nil => cases skip <;> rfl
  | cons c rest ih =>
      cases skip with
      | succ skip => exact ih skip
      | zero =>
          rw [replaceFrom, cutFrom]
          split
          · simp [Gapped.fill, ih]
          · simp [ih]

/-- Replacing is cutting and filling. -/
theorem replaceAll_eq_fill (needle replacement s : Text) :
    replaceAll needle replacement s = (cut needle s).fill replacement :=
  replaceFrom_eq_fill needle replacement 0 s

theorem fill_cutFrom {needle : Text} (hne : needle ≠ []) (skip : Nat) (s : Text) :
    (cutFrom needle skip s).fill needle = s.drop skip := by
  induction s generalizing skip with
  | nil => cases skip <;> rfl
  | cons c rest ih =>
      cases skip with
      | succ skip => exact ih skip
      | zero =>
          rw [cutFrom, List.drop_zero]
          split
          · next hprefix =>
              obtain ⟨d, more, rfl⟩ := List.exists_cons_of_ne_nil hne
              obtain ⟨behind, hbehind⟩ := List.isPrefixOf_iff_prefix.1 hprefix
              rw [List.cons_append, List.cons.injEq] at hbehind
              rw [Gapped.fill, ih, List.length_cons, Nat.add_sub_cancel, ← hbehind.2,
                List.drop_left, hbehind.1]
              simp
          · simp [ih]

/-- What was cut out fills the gaps. -/
theorem fill_cut {needle : Text} (hne : needle ≠ []) (s : Text) : (cut needle s).fill needle = s :=
  fill_cutFrom hne 0 s

/-- A text in which another one does not occur has no gaps. -/
theorem cut_of_not_infix {needle s : Text} (h : ¬ needle <:+: s) : cut needle s = .text s := by
  unfold cut
  induction s with
  | nil => rfl
  | cons c rest ih =>
      rw [List.infix_cons_iff, not_or] at h
      rw [cutFrom, if_neg (mt List.isPrefixOf_iff_prefix.1 h.1), ih h.2]
      rfl

/-- A text without an occurrence stays. -/
theorem replaceAll_eq_self {needle s : Text} (h : ¬ needle <:+: s) (replacement : Text) :
    replaceAll needle replacement s = s := by
  rw [replaceAll_eq_fill, cut_of_not_infix h, Gapped.fill_text]

theorem cutFrom_eq_cut_drop (needle : Text) (skip : Nat) (s : Text) :
    cutFrom needle skip s = cut needle (s.drop skip) := by
  induction s generalizing skip with
  | nil => cases skip <;> rfl
  | cons c rest ih =>
      cases skip with
      | zero => rfl
      | succ skip => exact ih skip

/-- An occurrence at the front is cut out. -/
theorem cut_append_self {needle : Text} (hne : needle ≠ []) (s : Text) :
    cut needle (needle ++ s) = .gap [] (cut needle s) := by
  obtain ⟨c, more, rfl⟩ := List.exists_cons_of_ne_nil hne
  have hprefix : (c :: more).isPrefixOf (c :: (more ++ s)) = true :=
    List.isPrefixOf_iff_prefix.2 ⟨s, rfl⟩
  rw [cut, List.cons_append, cutFrom, if_pos hprefix, cutFrom_eq_cut_drop, List.length_cons,
    Nat.add_sub_cancel, List.drop_left]

/-- No occurrence starts in a text without the first character of the needle. -/
theorem cut_append_of_not_mem {c : Char} {more s : Text} (h : c ∉ s) (t : Text) :
    cut (c :: more) (s ++ t) = .text s ++ cut (c :: more) t := by
  induction s with
  | nil => cases h : cut (c :: more) t <;> rw [List.nil_append, h] <;> rfl
  | cons d rest ih =>
      rw [List.mem_cons, not_or] at h
      have hprefix : ¬ (c :: more).isPrefixOf (d :: (rest ++ t)) = true := by
        rw [List.isPrefixOf_iff_prefix]
        exact fun hp => h.1 (List.cons_prefix_cons.1 hp).1
      rw [cut, List.cons_append, cutFrom, if_neg hprefix, ← cut, ih h.2]
      cases cut (c :: more) t <;> rfl

/-- Where the texts around the gaps lack the first character of the filling, its occurrences are
the gaps. -/
theorem cut_fill_of_not_mem {c : Char} {more : Text} {g : Gapped} (h : ∀ s ∈ g.pieces, c ∉ s) :
    cut (c :: more) (g.fill (c :: more)) = g := by
  induction g with
  | text s =>
      have hs : cut (c :: more) (s ++ []) = .text s ++ .text [] :=
        cut_append_of_not_mem (h s (by simp [Gapped.pieces])) []
      rw [List.append_nil] at hs
      rw [Gapped.fill, hs]
      exact congrArg Gapped.text (List.append_nil s)
  | gap s rest ih =>
      rw [Gapped.pieces, List.forall_mem_cons] at h
      rw [Gapped.fill, List.append_assoc, cut_append_of_not_mem h.1,
        cut_append_self (List.cons_ne_nil c more), ih h.2]
      exact congrArg (Gapped.gap · rest) (List.append_nil s)

/-! ### Two fillings -/

/-- Two texts differ in a character that both have. -/
def Diverges (p q : Text) : Prop :=
  ∃ (front : Text) (x y : Char) (p' q' : Text),
    p = front ++ x :: p' ∧ q = front ++ y :: q' ∧ x ≠ y

theorem Diverges.ne_nil {p q : Text} (h : Diverges p q) : p ≠ [] := by
  obtain ⟨front, x, y, p', q', rfl, -, -⟩ := h
  simp

/-- Two texts that diverge do not start the same text. -/
theorem Diverges.append_ne {p q : Text} (h : Diverges p q) (a b : Text) : p ++ a ≠ q ++ b := by
  obtain ⟨front, x, y, p', q', rfl, rfl, hxy⟩ := h
  intro heq
  simp only [List.append_assoc, List.cons_append, List.append_cancel_left_eq,
    List.cons.injEq] at heq
  exact hxy heq.1

/-- Two texts that diverge cannot be moved by the same distance. -/
theorem Diverges.not_moved {p q : Text} (h : Diverges p q) {m a a' b b' : Text} (hm : m ≠ [])
    (hp : p ++ a = m ++ (p ++ a')) (hq : q ++ b = m ++ (q ++ b')) : False := by
  obtain ⟨front, x, y, p', q', rfl, rfl, hxy⟩ := h
  have hpos := List.length_pos_iff.2 hm
  have hx := congrArg (fun s : Text => s[front.length]?) hp
  have hy := congrArg (fun s : Text => s[front.length]?) hq
  simp only [List.append_assoc, List.cons_append, List.getElem?_append_right (Nat.le_refl _),
    Nat.sub_self, List.getElem?_cons_zero] at hx hy
  by_cases hlt : front.length < m.length
  · -- The characters that differ lie in the part by which both are moved.
    rw [List.getElem?_append_left hlt] at hx hy
    exact hxy (Option.some.inj (hx.trans hy.symm))
  · -- They lie in front of the place where the moved texts differ.
    have hback : front.length - m.length < front.length := by omega
    rw [List.getElem?_append_right (by omega), List.getElem?_append_left hback] at hx hy
    exact hxy (Option.some.inj (hx.trans hy.symm))

/-- Two fillings that diverge determine the gaps. -/
theorem Gapped.eq_of_fill {p q : Text} (h : Diverges p q) {g k : Gapped}
    (hp : g.fill p = k.fill p) (hq : g.fill q = k.fill q) : g = k := by
  induction g generalizing k with
  | text s =>
      cases k with
      | text t => exact congrArg Gapped.text hp
      | gap t rest =>
          have hsame := hp.symm.trans hq
          simp only [fill, List.append_assoc, List.append_cancel_left_eq] at hsame
          exact absurd hsame (h.append_ne _ _)
  | gap s rest ih =>
      cases k with
      | text t =>
          have hsame := hp.trans hq.symm
          simp only [fill, List.append_assoc, List.append_cancel_left_eq] at hsame
          exact absurd hsame (h.append_ne _ _)
      | gap t rest' =>
          simp only [fill, List.append_assoc] at hp hq
          rcases List.append_eq_append_iff.1 hp with ⟨m, hm, hrest⟩ | ⟨m, hm, hrest⟩
          · rw [hm, List.append_assoc, List.append_cancel_left_eq] at hq
            by_cases hnil : m = []
            · subst hnil
              rw [List.append_nil] at hm
              simp only [List.nil_append, List.append_cancel_left_eq] at hrest hq
              rw [hm, ih hrest hq]
            · exact (h.not_moved hnil hrest hq).elim
          · rw [hm, List.append_assoc, List.append_cancel_left_eq] at hq
            by_cases hnil : m = []
            · subst hnil
              rw [List.append_nil] at hm
              simp only [List.nil_append, List.append_cancel_left_eq] at hrest hq
              rw [hm, ih hrest.symm hq]
            · exact (h.not_moved hnil hrest hq.symm).elim

/-- **Which gaps a replacement fills.**  A text that fills some gaps with the needle is changed into
the one that fills them with the replacement exactly if they are the gaps of the cut. -/
theorem replaceAll_eq_fill_iff {needle replacement : Text} (h : Diverges needle replacement)
    (g : Gapped) :
    replaceAll needle replacement (g.fill needle) = g.fill replacement ↔
      cut needle (g.fill needle) = g := by
  rw [replaceAll_eq_fill]
  constructor
  · exact fun hfill => Gapped.eq_of_fill h (fill_cut h.ne_nil _) hfill
  · intro hcut
    rw [hcut]

end Text

end Pushdown
