/-
**Pair by pair and all at once.**

There are two ways to write a request: all at once, with the parameters in form encoding, the
headers numbered and the body behind them, or pair by pair behind a text that is there already.  One
reader understands both, also one behind the other: pairs that are appended to the text of a table
are read as if its parameters and headers had been given further values.

Main definitions:

* `Plan.paramsOf`, `Plan.headersOf` — the parameters and the headers of a row of values;
* `Table.Merges` — a header is merged of a set of values.

Main results:

* `Table.addPairs_sent` — what a row of values adds to the parts of a query;
* `Plan.scan_extend_of_fits` — a row is read behind the parts that are there;
* `Table.Legible.extensible_encode` — pairs can be appended to the text of a table;
* `Plan.decode_extend_encode` — **pairs behind the text of a table are further values of it**.
-/

import Pushdown.Proofs.Plan.Carriage
import Pushdown.Proofs.Table.Decoded

set_option autoImplicit false

namespace Pushdown

/-! ### Rows of values -/

namespace Plan

/-- The parameters of a row of values, in order. -/
def paramsOf (row : List (Target × Text)) : List (Text × Text) :=
  row.filterMap fun
    | (.param name, value) => some (name, value)
    | (.header _, _) => none

/-- The headers of a row of values, in order. -/
def headersOf (row : List (Target × Text)) : List Header :=
  row.filterMap fun
    | (.param _, _) => none
    | (.header name, value) => some ⟨name, value⟩

theorem mem_headersOf {row : List (Target × Text)} {name value : Text} :
    ⟨name, value⟩ ∈ headersOf row ↔ (Target.header name, value) ∈ row := by
  rw [headersOf, List.mem_filterMap]
  constructor
  · rintro ⟨⟨target, v⟩, hmem, hsome⟩
    cases target with
    | param n => exact absurd hsome (by simp)
    | header n =>
        obtain ⟨rfl, rfl⟩ := Header.mk.inj (Option.some.inj hsome)
        exact hmem
  · exact fun hmem => ⟨_, hmem, rfl⟩

end Plan

namespace Table

/-- What a row of values that fit adds to the parts of a query. -/
theorem addPairs_sent (parts : QueryParts) {row : List (Target × Text)}
    (hrow : ∀ a ∈ row, a.1.Fits a.2) :
    addPairs parts (row.map fun a => a.1.sent a.2) =
      .ok ⟨parts.params.appendPairs (Plan.paramsOf row), parts.headers ++ Plan.headersOf row,
        parts.body⟩ := by
  induction row generalizing parts with
  | nil => simp [addPairs, Plan.paramsOf, Plan.headersOf, Params.appendPairs]
  | cons a row ih =>
      obtain ⟨target, value⟩ := a
      have hfits := hrow _ List.mem_cons_self
      have hrest := fun parts : QueryParts =>
        ih parts fun x hx => hrow x (List.mem_cons_of_mem _ hx)
      simp only [List.map_cons]
      cases target with
      | param name =>
          have hsent : (Target.param name).sent value = (name, value) := rfl
          rw [hsent, addPairs, addPair_ordinary hfits.1 hfits.2]
          exact hrest _
      | header name =>
          have hsent : (Target.header name).sent value = (headerPrefix, name ++ ':' :: value) := rfl
          have hparse : Header.parse? (name ++ ':' :: value) = some ⟨name, value⟩ := by
            simp [Header.parse?, Text.splitFirst?_append hfits.1.2]
          rw [hsent, addPairs, addPair_header (List.prefix_refl _) (by simp), hparse]
          simp only [hrest]
          simp [Plan.paramsOf, Plan.headersOf]

/-! ### Written tables -/

/-- The text of a table with a plain path has no question mark but the one that opens its query. -/
theorem not_glues_encode {t : Table} (hpath : '?' ∉ t.path ∧ '#' ∉ t.path) :
    ¬ Glues t.encode := by
  have hbefore : Text.before '#' t.encode = t.path ++ t.queryText :=
    before_append (hash_not_mem_front hpath) (Or.inr ⟨_, rfl⟩)
  have hquery : '?' ∉ t.query := not_mem_query (by decide) t
  rintro ⟨hlast, hinner⟩
  rw [hbefore] at hlast hinner
  rcases queryText_eq t with ⟨hnil, -⟩ | hcons
  · rw [hnil, List.append_nil] at hinner
    exact hpath.1 (List.dropLast_subset _ hinner)
  · rw [hcons] at hlast hinner
    rcases List.eq_nil_or_concat t.query with hnil | ⟨front, c, hconcat⟩
    · rw [hnil, List.dropLast_concat] at hinner
      exact hpath.1 hinner
    · rw [List.concat_eq_append] at hconcat
      rw [hconcat, ← List.cons_append, ← List.append_assoc, List.getLast?_concat] at hlast
      exact hquery (hconcat ▸ Option.some.inj hlast ▸ List.mem_append_right _ List.mem_cons_self)

/-- Pairs can be appended to the text of a legible table. -/
theorem Legible.extensible_encode {t : Table} (h : t.Legible) (hplain : IsRelative t.encode) :
    Extensible t.encode :=
  ⟨not_glues_encode h.path_plain, fun hrelative => absurd hplain hrelative⟩

/-! ### Merged headers -/

/-- A header is merged of the values with a property: of none it is left out, and otherwise it is
the join of the values in increasing order. -/
def Merges (header : Option Text) (P : Text → Prop) : Prop :=
  ∃ values : List Text, (values.Pairwise fun a b => Text.precedes a b = true) ∧
    (∀ v, v ∈ values ↔ P v) ∧
    header = if values = [] then none else some (Text.joinWith [','] values)

theorem merges_mergeAll (headers : List Header) (name : Text) :
    Merges ((Header.mergeAll headers).get? name) fun v =>
      ⟨name, v⟩ ∈ headers ∧ name ≠ [] ∧ v ≠ [] := by
  refine ⟨Header.sorted (Header.valuesOf name headers), Header.sorted_increasing _, fun v => ?_, ?_⟩
  · rw [Header.mem_sorted, Header.mem_valuesOf]
  · have hnil : Header.sorted (Header.valuesOf name headers) = [] ↔
        Header.valuesOf name headers = [] := by
      simp only [List.eq_nil_iff_forall_not_mem, Header.mem_sorted]
    rw [Header.get?_mergeAll]
    simp only [hnil]

theorem Merges.congr {header : Option Text} {P Q : Text → Prop} (h : Merges header P)
    (hPQ : ∀ v, P v ↔ Q v) : Merges header Q := by
  obtain ⟨values, hincreasing, hmem, heq⟩ := h
  exact ⟨values, hincreasing, fun v => (hmem v).trans (hPQ v), heq⟩

end Table

namespace Plan

/-! ### Reading a row behind a text -/

/-- A row of values that fit is read behind the parts that are there. -/
theorem scan_extend_of_fits {uri : Text} {row : List (Target × Text)} {r : Table.Scan}
    (hrow : ∀ a ∈ row, a.1.Fits a.2) (hext : Table.Extensible uri)
    (htrim : Text.trim uri = uri) (hscan : Table.scan uri = .ok r) :
    Table.scan (extend uri (rowPairs row)) =
      .ok ⟨r.path, ⟨r.parts.params.appendPairs (paramsOf row), r.parts.headers ++ headersOf row,
        r.parts.body⟩, r.fragment⟩ := by
  induction row generalizing uri r with
  | nil =>
      obtain ⟨path, ⟨params, headers, body⟩, fragment⟩ := r
      simpa [rowPairs, extend, paramsOf, headersOf, Params.appendPairs] using hscan
  | cons a row ih =>
      have hne := a.1.pair_ne_nil a.2
      have hchars := a.1.isQueryChar_pair a.2
      have hfirst : ∀ x ∈ [a], x.1.Fits x.2 :=
        fun x hx => List.mem_singleton.1 hx ▸ hrow a List.mem_cons_self
      have hstep : Table.scan (Table.appendPair uri (a.1.pair a.2)) =
          .ok ⟨r.path, ⟨r.parts.params.appendPairs (paramsOf [a]),
            r.parts.headers ++ headersOf [a], r.parts.body⟩, r.fragment⟩ := by
        refine (Table.scan_appendPair_iff hext htrim hne hchars).2 ⟨r, hscan, ?_, rfl, rfl⟩
        rw [Target.readPairs_pair]
        exact Table.addPairs_sent r.parts hfirst
      have hrest := ih (fun x hx => hrow x (List.mem_cons_of_mem _ hx))
        (Table.extensible_appendPair uri hne hchars) (Table.trim_appendPair htrim hne hchars) hstep
      have hparams : paramsOf (a :: row) = paramsOf [a] ++ paramsOf row :=
        List.filterMap_append (l := [a])
      have hheaders : headersOf (a :: row) = headersOf [a] ++ headersOf row :=
        List.filterMap_append (l := [a])
      rw [hparams, hheaders, Params.appendPairs_append, ← List.append_assoc]
      exact hrest

/-! ### Both ways together -/

/-- **Pairs behind the text of a table are further values of it.**  Take a table that comes back
from its text, with a path and a fragment without `://`, and append pairs whose values fit, of
parameters and headers in any order.  The longer text is read as the table with the same path, body
and fragment, the parameters with the further ones appended in order, and under each header name the
distinct values of the header of the table, as one value, and of the pairs. -/
theorem decode_extend_encode {t : Table} (hround : Table.decode t.encode = .ok t)
    (hpath : Table.IsRelative t.path) (hfragment : Table.IsRelative t.fragment)
    {row : List (Target × Text)} (hrow : ∀ a ∈ row, a.1.Fits a.2) :
    ∃ t', Table.decode (extend t.encode (rowPairs row)) = .ok t' ∧
      t'.path = t.path ∧ t'.body = t.body ∧ t'.fragment = t.fragment ∧
      t'.params = t.params.appendPairs (paramsOf row) ∧
      ∀ name, Table.Merges (t'.headers.get? name) fun v =>
        t.headers.get? name = some v ∨ (Target.header name, v) ∈ row := by
  have hplain := Table.isRelative_encode hpath hfragment
  have hlegible := Table.Legible.of_decode_encode hplain hround
  have hgrouped := (Table.decoded_of_decode hround).grouped
  have hscan := scan_extend_of_fits hrow (hlegible.extensible_encode hplain)
    hlegible.trim_encode_eq (hlegible.scan_encode hgrouped hplain)
  refine ⟨_, Table.decode_eq_ok_iff.2 ⟨_, hscan, rfl⟩, rfl, rfl, rfl, rfl, fun name => ?_⟩
  refine (Table.merges_mergeAll _ name).congr fun v => ?_
  -- The text of a table has one pair for each header, so the value it had counts as one.
  have hentry : ⟨name, v⟩ ∈ Header.ofEntries t.headers.entries ↔
      t.headers.get? name = some v := by
    rw [Dictionary.get?_eq_some_iff]
    simp [Header.ofEntries]
  rw [List.mem_append, hentry, mem_headersOf]
  constructor
  · exact fun h => h.1
  · intro h
    refine ⟨h, ?_⟩
    rcases h with hget | hmem
    · have hvalue := hlegible.headers _ (Dictionary.get?_eq_some_iff.1 hget)
      exact ⟨hvalue.1, hvalue.2.2⟩
    · have hfits := hrow _ hmem
      exact ⟨hfits.1.1, hfits.2⟩

/-- Values for names that a table has already and for a new one. -/
def furtherRow : List (Target × Text) :=
  [(.header "z".toList, "0".toList), (.param "a&b".toList, "?".toList),
    (.header "z".toList, "1".toList), (.param "ü".toList, "&header=x".toList)]

theorem decode_extend_furtherRow :
    ∃ t', Table.decode (extend Table.separatorTable.encode (rowPairs furtherRow)) = .ok t' ∧
      t'.params = Params.ofPairs
        [("a&b".toList, "1=2".toList), ("a&b".toList, "ü€".toList), ("a&b".toList, "?".toList),
          ("p+q".toList, "#,%".toList), ("ü".toList, "&header=x".toList)] ∧
      ∀ name, Table.Merges (t'.headers.get? name) fun v =>
        Table.separatorTable.headers.get? name = some v ∨ (Target.header name, v) ∈ furtherRow := by
  have hfits : ∀ a ∈ furtherRow, a.1.Fits a.2 := by decide
  obtain ⟨t', hdecode, -, -, -, hparams, hheaders⟩ :=
    decode_extend_encode (t := Table.separatorTable) (by decide +kernel) (by decide) (by decide)
      hfits
  exact ⟨t', hdecode, hparams.trans (by decide), hheaders⟩

end Plan

end Pushdown
