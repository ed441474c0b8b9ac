/-
**URLs with a longer query.**

A query that grows by characters that stand for themselves leaves path and fragment of a URL as they
are and appears at the end of its query.  The end of the text must not change its reading by itself:
control characters at the end are dropped, but not in the middle, and a text that ends in `@` may
lack a host.

Main definitions:

* `Url.visible`, `Url.lead`, `Url.trail` — the steps of cleaning a text;
* `Url.IsQuery`, `Url.IsTail` — a query and a fragment with their marks;
* `Url.writtenQuery` — a query as it is written.

Main results:

* `Url.cleaned_parts` — cleaning a text that is put together of front, query and fragment;
* `Url.parse_parts` — **reading a text that is put together of front, query and fragment**.
-/

import Pushdown.Proofs.Table.Query
import Pushdown.Proofs.Text.Splitting
import Pushdown.Proofs.Url.Front

set_option autoImplicit false

namespace Pushdown

namespace Url

/-! ### Cleaning -/

/-- The text without tabs and line breaks. -/
def visible (s : Text) : Text := s.filter fun c => c != '\t' && c != '\n' && c != '\r'

/-- The text without control characters and spaces in front. -/
def lead (s : Text) : Text := s.dropWhile isControlOrSpace

/-- The text without control characters and spaces at its end. -/
def trail (s : Text) : Text := (s.reverse.dropWhile isControlOrSpace).reverse

theorem cleaned_eq (s : Text) : cleaned s = visible (trail (lead s)) := rfl

theorem visible_append (a b : Text) : visible (a ++ b) = visible a ++ visible b :=
  List.filter_append ..

theorem visible_cons {c : Char} (hc : isControlOrSpace c = false) (s : Text) :
    visible (c :: s) = c :: visible s := by
  refine List.filter_cons_of_pos ?_
  simp only [Bool.and_eq_true, bne_iff_ne]
  refine ⟨⟨?_, ?_⟩, ?_⟩ <;> rintro rfl <;> exact absurd hc (by decide)

/-- A text without control characters has nothing to lose. -/
theorem visible_eq_self {s : Text} (h : ∀ c ∈ s, 0x20 ≤ c.toNat) : visible s = s := by
  refine List.filter_eq_self.2 fun c hc => ?_
  have hlow := h c hc
  simp only [Bool.and_eq_true, bne_iff_ne]
  refine ⟨⟨?_, ?_⟩, ?_⟩ <;> rintro rfl <;> exact absurd hlow (by decide)

theorem lead_append {a r : Text} (hr : ∀ c ∈ r.head?, isControlOrSpace c = false) :
    lead (a ++ r) = lead a ++ r :=
  (Text.takeWhile_append_of_head hr a).2

theorem trail_append_cons {c : Char} (hc : isControlOrSpace c = false) (a b : Text) :
    trail (a ++ c :: b) = a ++ c :: trail b := by
  have hhead : ∀ d ∈ (c :: a.reverse).head?, isControlOrSpace d = false := by
    intro d hd
    have hdc : d = c := by simpa using hd.symm
    rw [hdc]
    exact hc
  have h := (Text.takeWhile_append_of_head hhead b.reverse).2
  have hreverse : (a ++ c :: b).reverse = b.reverse ++ c :: a.reverse := by simp
  rw [trail, hreverse, h]
  simp [trail]

/-- A text whose last character is neither a control character nor a space keeps its end. -/
theorem trail_of_last {s : Text} (h : ∀ c ∈ s.getLast?, isControlOrSpace c = false) :
    trail s = s := by
  rcases List.eq_nil_or_concat s with rfl | ⟨s, c, rfl⟩
  · rfl
  · rw [List.concat_eq_append] at h ⊢
    exact trail_append_cons (h c (by simp)) s []

/-- A fragment without control characters and spaces at its end, with its mark. -/
def cleanedTail : Text → Text
  | [] => []
  | c :: fragment => c :: visible (trail fragment)

/-- A printable fragment whose end is no space has nothing to lose. -/
theorem cleanedTail_eq_self {tail : Text} (hprintable : ∀ c ∈ tail, 0x20 ≤ c.toNat)
    (hend : ∀ c ∈ tail.getLast?, isControlOrSpace c = false) : cleanedTail tail = tail := by
  cases tail with
  | nil => rfl
  | cons mark fragment =>
      have hlast : ∀ c ∈ fragment.getLast?, isControlOrSpace c = false := fun c hc =>
        hend c (getLast?_of_suffix (List.suffix_cons mark fragment) hc)
      rw [cleanedTail, trail_of_last hlast,
        visible_eq_self fun c hc => hprintable c (List.mem_cons_of_mem _ hc)]

/-- A query with its mark, or nothing. -/
def IsQuery (q : Text) : Prop := q = [] ∨ ∃ query, q = '?' :: query

/-- A fragment with its mark, or nothing. -/
def IsTail (tail : Text) : Prop := tail = [] ∨ ∃ fragment, tail = '#' :: fragment

theorem IsQuery.isRest {q tail : Text} (hq : IsQuery q) (htail : IsTail tail) :
    IsRest (q ++ tail) := by
  intro c hc
  rcases hq with rfl | ⟨query, rfl⟩
  · rcases htail with rfl | ⟨fragment, rfl⟩
    · exact absurd hc (by simp)
    · exact Or.inr (by simpa using hc.symm)
  · exact Or.inl (by simpa using hc.symm)

theorem IsQuery.visible {q : Text} (hq : IsQuery q) : IsQuery (visible q) := by
  rcases hq with rfl | ⟨query, rfl⟩
  · exact Or.inl rfl
  · exact Or.inr ⟨_, visible_cons (by decide) query⟩

theorem IsQuery.eq_nil_of_visible {q : Text} (hq : IsQuery q) (h : Url.visible q = []) :
    q = [] := by
  rcases hq with rfl | ⟨query, rfl⟩
  · rfl
  · rw [visible_cons (by decide)] at h
    exact absurd h (by simp)

theorem IsTail.cleaned {tail : Text} (htail : IsTail tail) : IsTail (cleanedTail tail) := by
  rcases htail with rfl | ⟨fragment, rfl⟩
  · exact Or.inl rfl
  · exact Or.inr ⟨_, rfl⟩

/-- Cleaning the front does not bring an `@` to its end. -/
theorem getLast?_visible_lead {a : Text}
    (h : ∀ c ∈ a.getLast?, isControlOrSpace c = false ∧ c ≠ '@') :
    (visible (lead a)).getLast? ≠ some '@' := by
  rcases List.eq_nil_or_concat a with rfl | ⟨a, c, rfl⟩
  · exact fun hlast => absurd hlast (by simp [lead, visible])
  · rw [List.concat_eq_append] at h ⊢
    obtain ⟨hcontrol, hat⟩ := h c (by simp)
    have hhead : ∀ d ∈ [c].head?, isControlOrSpace d = false := by
      intro d hd
      have hdc : d = c := by simpa using hd.symm
      rw [hdc]
      exact hcontrol
    rw [lead_append hhead, visible_append, visible_cons hcontrol, List.getLast?_append]
    exact fun hlast => hat (Option.some.inj hlast)

theorem IsRest.not_control {r : Text} (hr : IsRest r) :
    ∀ c ∈ r.head?, isControlOrSpace c = false :=
  hr.not_of_class ⟨by decide, by decide⟩

/-- Cleaning a text that is put together of front, query and fragment. -/
theorem cleaned_parts {a q tail : Text} (hq : IsQuery q) (htail : IsTail tail)
    (hend : tail = [] → ∀ c ∈ (a ++ q).getLast?, isControlOrSpace c = false) :
    cleaned (a ++ (q ++ tail)) = visible (lead a) ++ (visible q ++ cleanedTail tail) := by
  have hlead : lead (a ++ (q ++ tail)) = lead a ++ q ++ tail := by
    rw [lead_append (hq.isRest htail).not_control, List.append_assoc]
  have htrail : trail (lead a ++ q ++ tail) =
      lead a ++ q ++ (tail.take 1 ++ trail (tail.drop 1)) := by
    rcases htail with rfl | ⟨fragment, rfl⟩
    · have hsuffix : lead a ++ q <:+ a ++ q := by
        have h := List.dropWhile_suffix (l := a) isControlOrSpace
        obtain ⟨front, hfront⟩ := h
        exact ⟨front, by rw [← List.append_assoc]; exact congrArg (· ++ q) hfront⟩
      have hlast : ∀ c ∈ (lead a ++ q).getLast?, isControlOrSpace c = false :=
        fun c hc => hend rfl c (getLast?_of_suffix hsuffix hc)
      simpa [trail] using trail_of_last hlast
    · exact trail_append_cons (by decide) _ _
  rw [cleaned_eq, hlead, htrail, visible_append, visible_append, List.append_assoc]
  rcases htail with rfl | ⟨fragment, rfl⟩
  · rfl
  · exact congrArg (fun x => visible (lead a) ++ (visible q ++ x))
      (visible_cons (by decide) (trail fragment))

/-! ### Parts of a URL -/

/-- Whether a character of a query is escaped in a URL of a kind. -/
def isEscaped (kind : SchemeKind) (c : Char) : Bool :=
  inQuerySet c || (c = '\'' && kind != .other)

/-- A query as a URL of a kind has it. -/
def writtenQuery (kind : SchemeKind) (query : Text) : Text :=
  encodeWith (isEscaped kind) (visible query)

theorem encodeWith_append (also : Char → Bool) (a b : Text) :
    encodeWith also (a ++ b) = encodeWith also a ++ encodeWith also b := List.flatMap_append

/-- A printable text without characters of the class stands for itself. -/
theorem encodeWith_eq_self {also : Char → Bool} {s : Text}
    (h : ∀ c ∈ s, (0x20 ≤ c.toNat ∧ c.toNat ≤ 0x7E) ∧ also c = false) :
    encodeWith also s = s := by
  induction s with
  | nil => rfl
  | cons c s ih =>
      obtain ⟨hprintable, halso⟩ := h c List.mem_cons_self
      have hlow : ¬ c.toNat < 0x20 := by omega
      have hhigh : ¬ 0x7E < c.toNat := by omega
      have hrest := ih fun d hd => h d (List.mem_cons_of_mem _ hd)
      rw [encodeWith] at hrest
      rw [encodeWith, List.flatMap_cons, hrest]
      simp [hlow, hhigh, halso]

theorem writtenQuery_append (kind : SchemeKind) (a b : Text) :
    writtenQuery kind (a ++ b) = writtenQuery kind a ++ writtenQuery kind b := by
  rw [writtenQuery, visible_append, encodeWith_append]
  rfl

/-- A query character is printable and not escaped in the query of a URL. -/
theorem plain_of_isQueryChar (kind : SchemeKind) {c : Char} (h : Table.isQueryChar c = true) :
    (0x20 ≤ c.toNat ∧ c.toNat ≤ 0x7E) ∧ isEscaped kind c = false := by
  have hbounds := Table.isQueryChar_bounds h
  have hne : ∀ d, Table.isQueryChar d = false → c ≠ d := by
    rintro d hd rfl
    rw [hd] at h
    exact absurd h (by simp)
  refine ⟨by omega, ?_⟩
  simp [isEscaped, inQuerySet, hne ' ' (by decide), hne '"' (by decide), hne '#' (by decide),
    hne '<' (by decide), hne '>' (by decide), hne '\'' (by decide)]

/-- Query characters stand for themselves in the query of a URL. -/
theorem writtenQuery_of_isQueryChar (kind : SchemeKind) {s : Text}
    (h : ∀ c ∈ s, Table.isQueryChar c = true) : writtenQuery kind s = s := by
  rw [writtenQuery, visible_eq_self fun c hc => (plain_of_isQueryChar kind (h c hc)).1.1]
  exact encodeWith_eq_self fun c hc => plain_of_isQueryChar kind (h c hc)

/-- The URL whose rest is put together of query and fragment. -/
theorem withRest_parts {q tail : Text} (hq : IsQuery q) (hhash : '#' ∉ q) (htail : IsTail tail)
    (kind : SchemeKind) (path : Text) :
    withRest kind path (visible q ++ cleanedTail tail) =
      ⟨path, writtenQuery kind q.tail, encodeWith inFragmentSet (cleanedTail tail).tail⟩ := by
  rcases hq with rfl | ⟨query, rfl⟩
  · rcases htail with rfl | ⟨fragment, rfl⟩ <;> rfl
  · have hvisible : '#' ∉ visible query := fun hm =>
      hhash (List.mem_cons_of_mem _ (List.mem_filter.1 hm).1)
    rw [visible_cons (by decide)]
    rcases htail with rfl | ⟨fragment, rfl⟩
    · simp only [cleanedTail, List.append_nil, withRest, Text.splitFirst?_eq_none_iff.2 hvisible]
      rfl
    · simp only [cleanedTail, List.cons_append, withRest, Text.splitFirst?_append hvisible]
      rfl

/-- **Reading a text that is put together.**  Kind and path depend on the front alone, the query is
the written query and the fragment depends on the tail alone. -/
theorem parse_parts {a : Text} (ha : Plain a) :
    ∃ x : Except Error (SchemeKind × Text), ∀ q tail, IsQuery q → '#' ∉ q → IsTail tail →
      (tail = [] → ∀ c ∈ (a ++ q).getLast?, isControlOrSpace c = false ∧ c ≠ '@') →
      parse (a ++ (q ++ tail)) = x.map fun front =>
        ⟨front.2, writtenQuery front.1 q.tail,
          encodeWith inFragmentSet (cleanedTail tail).tail⟩ := by
  have hplain : Plain (visible (lead a)) := ha.mono fun c hc =>
    (List.dropWhile_sublist _).subset (List.mem_filter.1 hc).1
  obtain ⟨x, hx⟩ := readCleaned_append hplain
  refine ⟨x, fun q tail hq hhash htail hend => ?_⟩
  have hrest : IsRest (visible q ++ cleanedTail tail) := hq.visible.isRest htail.cleaned
  rw [parse_eq_readCleaned, cleaned_parts hq htail fun hnil c hc => (hend hnil c hc).1,
    hx _ hrest ?_]
  · refine congrArg (fun f => x.map f) (funext fun front => ?_)
    exact withRest_parts hq hhash htail front.1 front.2
  · intro hnil
    obtain ⟨hq', htail'⟩ := List.append_eq_nil_iff.1 hnil
    have hq'' : q = [] := hq.eq_nil_of_visible hq'
    have htail'' : tail = [] := by
      rcases htail with h | ⟨fragment, rfl⟩
      · exact h
      · exact absurd htail' (by simp [cleanedTail])
    rw [hq'', List.append_nil] at hend
    exact getLast?_visible_lead fun c hc => hend htail'' c hc

end Url

end Pushdown
