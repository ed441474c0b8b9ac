/-
**Two readings of one text.**

A text is read with all values or with single values.  Both readings take the same parts of it, so
they fail for the same reason or agree in path, body, fragment and the names of parameters; a
parameter with several values is joined in one of them.  Headers are read by two different rules:
of a name that repeats one reading joins the distinct values in increasing order and leaves out what
is empty, and the other takes the last value, empty or not.  A last value that is not empty is
therefore among the joined ones.

Main definitions:

* `Table.HeadersOfText` — the header pairs in the query of a text;
* `Header.Joins` — a text joins the values of a name;
* `Header.ReadAll`, `Header.ReadLast` — the two readings of header pairs.

Main results:

* `Dictionary.get?_ofList` — of equal keys the last one counts;
* `Header.readAll_mergeAll`, `Header.readLast_mergeLast` — what is read of header pairs;
* `Header.mem_of_readLast` — a last value that is not empty is joined;
* `Table.headers_of_addPairs` — the header pairs of a query in order;
* `Table.decode_agree` — **the two readings agree on every text**.
-/

import Mathlib.Data.List.Induction
import Pushdown.Proofs.Codec.Order
import Pushdown.Proofs.Table.Interleaving

set_option autoImplicit false

namespace Pushdown

namespace Dictionary

variable {β : Type}

/-- Of equal keys in a list the last one counts. -/
theorem get?_ofList (l : List (Text × β)) (k : Text) :
    (ofList l).get? k = ((l.filter fun e => e.1 = k).map Prod.snd).getLast? := by
  -- The last entry is inserted last.
  induction l using List.reverseRecOn with
  | nil => rfl
  | append_singleton l e ih =>
      have hstep : ofList (l ++ [e]) = (ofList l).insert e.1 e.2 := by
        rw [ofList, List.foldl_append]
        rfl
      rw [hstep, get?_insert, ih]
      by_cases he : e.1 = k
      · simp [he]
      · simp [he]

end Dictionary

namespace Header

/-! ### Two readings of header pairs -/

/-- A text is the join of values: those of the pairs with a name that are not empty, each of them
once and in the order of their octets. -/
structure Joins (headers : List Header) (name : Text) (values : List Text) (text : Text) :
    Prop where
  increasing : values.Pairwise fun a b => Utf8.encode a < Utf8.encode b
  mem_iff : ∀ value, value ∈ values ↔ value ≠ [] ∧ ⟨name, value⟩ ∈ headers
  join : text = Text.joinWith [','] values

/-- The names are those that are not empty and occur with a value that is not empty, and each has
the join of its values. -/
structure ReadAll (headers : List Header) (d : Dictionary Text) : Prop where
  mem_keys_iff : ∀ name, name ∈ d.keys ↔
    name ≠ [] ∧ ∃ value, value ≠ [] ∧ ⟨name, value⟩ ∈ headers
  joins : ∀ name text, d.get? name = some text → ∃ values, Joins headers name values text

/-- The names are all that occur, and each has its last value. -/
structure ReadLast (headers : List Header) (d : Dictionary Text) : Prop where
  mem_keys_iff : ∀ name, name ∈ d.keys ↔ ∃ header ∈ headers, header.name = name
  last : ∀ name, d.get? name =
    ((headers.filter fun header => header.name = name).map Header.value).getLast?

theorem valuesOf_ne_nil_iff {name : Text} {headers : List Header} :
    valuesOf name headers ≠ [] ↔ name ≠ [] ∧ ∃ value, value ≠ [] ∧ ⟨name, value⟩ ∈ headers := by
  constructor
  · intro hne
    obtain ⟨value, rest, hvalues⟩ := List.exists_cons_of_ne_nil hne
    have hmem : value ∈ valuesOf name headers := hvalues ▸ List.mem_cons_self
    obtain ⟨hheader, hname, hvalue⟩ := mem_valuesOf.1 hmem
    exact ⟨hname, value, hvalue, hheader⟩
  · rintro ⟨hname, value, hvalue, hheader⟩
    exact List.ne_nil_of_mem (mem_valuesOf.2 ⟨hheader, hname, hvalue⟩)

/-- The values that count of a name, sorted, are joined as its header. -/
theorem joins_sorted {name : Text} (hname : name ≠ []) (headers : List Header) :
    Joins headers name (sorted (valuesOf name headers))
      (Text.joinWith [','] (sorted (valuesOf name headers))) where
  increasing := (sorted_increasing _).imp fun h => Utf8.encode_lt_encode_iff.2 h
  mem_iff := by
    intro value
    rw [mem_sorted, mem_valuesOf]
    constructor
    · rintro ⟨hheader, -, hvalue⟩
      exact ⟨hvalue, hheader⟩
    · rintro ⟨hvalue, hheader⟩
      exact ⟨hheader, hname, hvalue⟩
  join := rfl

theorem readAll_mergeAll (headers : List Header) : ReadAll headers (mergeAll headers) where
  mem_keys_iff := by
    intro name
    rw [Dictionary.mem_keys_iff, get?_mergeAll, ← valuesOf_ne_nil_iff]
    by_cases hnil : valuesOf name headers = []
    · simp [hnil]
    · simp [hnil]
  joins := by
    intro name text htext
    obtain ⟨hvalues, rfl⟩ := of_get?_mergeAll htext
    obtain ⟨hname, -⟩ := valuesOf_ne_nil_iff.1 hvalues
    exact ⟨_, joins_sorted hname headers⟩

theorem readLast_mergeLast (headers : List Header) : ReadLast headers (mergeLast headers) := by
  have hlast : ∀ name, (mergeLast headers).get? name =
      ((headers.filter fun header => header.name = name).map Header.value).getLast? := by
    intro name
    rw [mergeLast, Dictionary.get?_ofList, List.filter_map, List.map_map]
    rfl
  refine ⟨fun name => ?_, hlast⟩
  rw [Dictionary.mem_keys_iff, hlast, ← Option.isSome_iff_exists, List.getLast?_isSome]
  simp

/-- A last value that is not empty is among those that are joined. -/
theorem mem_of_readLast {headers : List Header} {all last : Dictionary Text}
    (hall : ReadAll headers all) (hlast : ReadLast headers last) {name value : Text}
    (hname : name ≠ []) (hvalue : value ≠ []) (hget : last.get? name = some value) :
    ∃ text values, all.get? name = some text ∧ Joins headers name values text ∧
      value ∈ values := by
  have hheader : ⟨name, value⟩ ∈ headers := by
    rw [hlast.last] at hget
    obtain ⟨header, hmem, rfl⟩ := List.mem_map.1 (List.mem_of_getLast? hget)
    obtain ⟨hmem, hname⟩ := List.mem_filter.1 hmem
    rw [decide_eq_true_eq] at hname
    rw [← hname]
    exact hmem
  have hkey : name ∈ all.keys := (hall.mem_keys_iff name).2 ⟨hname, value, hvalue, hheader⟩
  obtain ⟨text, htext⟩ := Dictionary.mem_keys_iff.1 hkey
  obtain ⟨values, hjoins⟩ := hall.joins name text htext
  exact ⟨text, values, htext, hjoins, (hjoins.mem_iff value).2 ⟨hvalue, hheader⟩⟩

end Header

namespace Table

/-! ### The headers of a query -/

theorem headersIn_append (a b : List (Text × Text)) :
    headersIn (a ++ b) = headersIn a ++ headersIn b := by
  simp [headersIn]

/-- What one pair adds to the headers. -/
theorem headers_of_addPair {parts parts' : QueryParts} {name value : Text}
    (h : addPair parts name value = .ok parts') :
    parts'.headers = parts.headers ++ headersIn (counted [(name, value)]) := by
  have hno_header (hname : ¬ headerPrefix <+: name) : headersIn (counted [(name, value)]) = [] := by
    by_cases hvalue : value = []
    · simp [counted, headersIn, hvalue]
    · simp [counted, headersIn, hvalue, hname]
  cases adds_of_addPair h with
  | blank hvalue => simp [counted, headersIn, hvalue]
  | header hvalue hheader hparse => simp [counted, headersIn, hvalue, hheader, hparse]
  | body _ hbody =>
      have hname : ¬ headerPrefix <+: name := by
        rw [hbody]
        decide
      rw [hno_header hname, List.append_nil]
  | param _ hname => rw [hno_header hname.1, List.append_nil]

/-- The header pairs of a query are found in order. -/
theorem headers_of_addPairs {parts parts' : QueryParts} {pairs : List (Text × Text)}
    (h : addPairs parts pairs = .ok parts') :
    parts'.headers = parts.headers ++ headersIn (counted pairs) := by
  induction pairs generalizing parts with
  | nil => simp [← Except.ok.inj h, counted, headersIn]
  | cons pair pairs ih =>
      obtain ⟨middle, hfirst, hrest⟩ := addPairs_cons_eq_ok_iff.1 h
      have hsplit : counted (pair :: pairs) = counted [pair] ++ counted pairs :=
        List.filter_append [pair] pairs
      rw [ih hrest, headers_of_addPair hfirst, hsplit, headersIn_append, List.append_assoc]

/-- The header pairs in the query of a text, in order: those of the pairs with a value whose name
starts as the names of headers do, each split at its first colon. -/
def HeadersOfText (s : Text) (headers : List Header) : Prop :=
  ∃ path query fragment, split (Text.trim s) = .ok (path, query, fragment) ∧
    headers = headersIn (counted (Form.readPairs query))

theorem headersOfText_of_scan {s : Text} {r : Scan} (h : scan s = .ok r) :
    HeadersOfText s r.parts.headers := by
  obtain ⟨query, fragment, hsplit, hquery, -⟩ := scan_eq_ok_iff.1 h
  exact ⟨r.path, query, fragment, hsplit, headers_of_addPairs hquery⟩

/-! ### Both readings -/

/-- Two readings have the same path, body and fragment, and of each parameter one has the values
and the other their join. -/
structure SameParts (t : Table) (u : SingleTable) : Prop where
  path : u.path = t.path
  params : u.params = t.params.groups.map fun group => (group.1, Text.joinWith [','] group.2)
  body : u.body = t.body
  fragment : u.fragment = t.fragment

/-- **The two readings agree on every text.**  Both fail for the same reason, or both succeed with
the same parts.  Then the headers are those of the query: in one reading every name that occurs with
a value has the join of its distinct values in the order of their octets, in the other one every
name that occurs has its last value, and a last value that is not empty is among the joined ones. -/
theorem decode_agree (s : Text) :
    (∃ e, decode s = .error e ∧ SingleTable.decode s = .error e) ∨
      ∃ t u headers, decode s = .ok t ∧ SingleTable.decode s = .ok u ∧ SameParts t u ∧
        HeadersOfText s headers ∧ Header.ReadAll headers t.headers ∧
        Header.ReadLast headers u.headers ∧
        ∀ name value, name ≠ [] → value ≠ [] → u.headers.get? name = some value →
          ∃ text values, t.headers.get? name = some text ∧
            Header.Joins headers name values text ∧ value ∈ values := by
  cases hscan : scan s with
  | error e => exact Or.inl ⟨e, by rw [decode, hscan]; rfl, by rw [SingleTable.decode, hscan]; rfl⟩
  | ok r =>
      have hall := Header.readAll_mergeAll r.parts.headers
      have hlast := Header.readLast_mergeLast r.parts.headers
      refine Or.inr ⟨_, _, r.parts.headers, by rw [decode, hscan]; rfl,
        by rw [SingleTable.decode, hscan]; rfl, ⟨rfl, rfl, rfl, rfl⟩,
        headersOfText_of_scan hscan, hall, hlast, ?_⟩
      intro name value hname hvalue hget
      exact Header.mem_of_readLast hall hlast hname hvalue hget

end Table

end Pushdown
