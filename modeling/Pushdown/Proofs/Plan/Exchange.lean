/-
**Writing a table anew before it grows.**

A table keeps one text for each header: the distinct values that were given to it, in increasing
order, joined by commas.  Written anew it has one pair for each header, whose value is that text.  A
further value joins the values that were given when the text of the table grows as it is, and joins
the one value that became of them when it was written anew in between.  All other parts agree, and
the header agrees if no two values had been joined.

Main definitions:

* `Header.merged` — the text of a header with given values;
* `Table.givenTo` — the values that a text gives to a header.

Main results:

* `Header.mergeAll_concat` — merged headers with one more pair;
* `Table.decode_appendPair_header` — a header that is appended to a text;
* `Table.decode_exchange` — **a header behind a text and behind the same table written anew**.
-/

import Pushdown.Proofs.Plan.Gluing
import Pushdown.Proofs.Table.Normal

set_option autoImplicit false

namespace Pushdown

namespace Header

/-- The text of a header with given values: without repetitions, in increasing order and joined by
commas. -/
def merged (values : List Text) : Text := Text.joinWith [','] (sorted values)

theorem merged_congr {a b : List Text} (h : ∀ v, v ∈ a ↔ v ∈ b) : merged a = merged b := by
  rw [merged, merged, sorted_congr h]

/-- A value that is given once or several times is the text of its header. -/
theorem merged_of_forall_eq {values : List Text} {v : Text} (hmem : v ∈ values)
    (h : ∀ w ∈ values, w = v) : merged values = v := by
  have hsame : ∀ w, w ∈ values ↔ w ∈ [v] := by
    intro w
    rw [List.mem_singleton]
    exact ⟨h w, fun hw => hw ▸ hmem⟩
  rw [merged_congr hsame]
  rfl

/-- A value joins a text that was merged before as it joins the values of this text, if these are
all the same. -/
theorem merged_cons_merged (value : Text) {given : List Text}
    (h : ∀ v ∈ given, ∀ w ∈ given, v = w) :
    merged (value :: if given = [] then [] else [merged given]) = merged (value :: given) := by
  cases hgiven : given with
  | nil => rfl
  | cons v rest =>
      -- The one value that was given is the text that was merged.
      have hmem : v ∈ given := hgiven ▸ List.mem_cons_self
      rw [← hgiven, if_neg (List.ne_nil_of_mem hmem),
        merged_of_forall_eq hmem fun w hw => h w hw v hmem]
      refine merged_congr fun w => ?_
      have hsame : w = v ↔ w ∈ given := ⟨fun hw => hw ▸ hmem, fun hw => h w hw v hmem⟩
      rw [List.mem_cons, List.mem_singleton, hsame, List.mem_cons]

theorem valuesOf_append (name : Text) (a b : List Header) :
    valuesOf name (a ++ b) = valuesOf name a ++ valuesOf name b := by
  simp [valuesOf]

/-- Merged headers with one more pair: its value joins those of its name. -/
theorem mergeAll_concat (headers : List Header) {name value : Text} (hname : name ≠ [])
    (hvalue : value ≠ []) :
    mergeAll (headers ++ [⟨name, value⟩]) =
      (mergeAll headers).insert name (merged (value :: valuesOf name headers)) := by
  refine Dictionary.ext_get? fun n => ?_
  rw [Dictionary.get?_insert]
  by_cases hn : name = n
  · subst hn
    have hvalues : valuesOf name (headers ++ [⟨name, value⟩]) =
        valuesOf name headers ++ [value] := by
      rw [valuesOf_append, valuesOf_cons, if_pos ⟨rfl, hname, hvalue⟩]
      rfl
    rw [if_pos rfl, get?_mergeAll, hvalues, if_neg (by simp)]
    refine congrArg some (merged_congr fun v => ?_)
    rw [List.mem_append, List.mem_singleton, List.mem_cons, or_comm]
  · have hvalues : valuesOf n (headers ++ [⟨name, value⟩]) = valuesOf n headers := by
      rw [valuesOf_append, valuesOf_cons, if_neg fun hboth => hn hboth.1]
      exact List.append_nil _
    rw [if_neg hn, get?_mergeAll, get?_mergeAll, hvalues]

/-- Pairs of headers with one value for each name give that value to it. -/
theorem valuesOf_entries {d : Dictionary Text} (h : ∀ e ∈ d.entries, e.1 ≠ [] ∧ e.2 ≠ [])
    (name : Text) : valuesOf name (ofEntries d.entries) = (d.get? name).toList := by
  rw [valuesOf_ofEntries h, Dictionary.filter_entries]

end Header

namespace Table

/-- The values that a text gives to a header, in order; none if it is no table. -/
def givenTo (uri name : Text) : List Text :=
  match scan uri with
  | .ok r => Header.valuesOf name r.parts.headers
  | .error _ => []

section

variable {uri name value : Text}

/-- A header that is appended to a text joins the values that the text gives to it. -/
theorem decode_appendPair_header {t : Table} (hrelative : IsRelative uri)
    (htrim : Text.trim uri = uri) (hdecode : decode uri = .ok t) (hglues : ¬ Glues uri)
    (hname : name ≠ [] ∧ ':' ∉ name) (hvalue : value ≠ []) :
    decode (appendPair uri (headerPair name value)) =
      .ok (t.withHeader name (Header.merged (value :: givenTo uri name))) := by
  obtain ⟨r, hscan, rfl⟩ := decode_eq_ok_iff.1 hdecode
  have hfits : (Target.header name).Fits value := ⟨hname, hvalue⟩
  have hscan' := scan_appendPair_of_fits hrelative htrim hglues hscan hfits
  have hheaders := Header.mergeAll_concat r.parts.headers hname.1 hvalue
  refine decode_eq_ok_iff.2 ⟨_, hscan', ?_⟩
  rw [givenTo, hscan]
  simp [Scan.table, withHeader, Plan.paramsOf, Plan.headersOf, Params.appendPairs, hheaders]

/-- What a text gives to a header, the table that it is read as has joined to one text. -/
theorem toList_header_of_decode {t : Table} (hdecode : decode uri = .ok t) (name : Text) :
    (t.headers.get? name).toList =
      if givenTo uri name = [] then [] else [Header.merged (givenTo uri name)] := by
  obtain ⟨r, hscan, rfl⟩ := decode_eq_ok_iff.1 hdecode
  rw [givenTo, hscan, Scan.table, Header.get?_mergeAll]
  split
  · rfl
  · rfl

/-- The text of a table gives one value to each of its headers. -/
theorem givenTo_encode {t : Table} (hround : decode t.encode = .ok t) (name : Text) :
    givenTo t.encode name = (t.headers.get? name).toList := by
  have hplain := isRelative_of_decode_encode hround
  have hlegible := Legible.of_decode_encode hplain hround
  have hscan := hlegible.scan_encode (decoded_of_decode hround).grouped hplain
  rw [givenTo, hscan]
  refine Header.valuesOf_entries (fun e he => ?_) name
  have hentry := hlegible.headers e he
  exact ⟨hentry.1, hentry.2.2⟩

/-- A header tells which text it was given. -/
theorem withHeader_inj {t : Table} {text text' : Text} :
    t.withHeader name text = t.withHeader name text' ↔ text = text' := by
  constructor
  · intro h
    have hget : (t.withHeader name text).headers.get? name =
        (t.withHeader name text').headers.get? name := by rw [h]
    rw [withHeader, withHeader, Dictionary.get?_insert, Dictionary.get?_insert, if_pos rfl,
      if_pos rfl] at hget
    exact Option.some.inj hget
  · rintro rfl
    rfl

end

/-- **A header behind a text and behind the same table written anew.**  Take a relative text that is
read as a table which comes back from its own text, and append a header that does not stick.  Both
longer texts are read as the table with another text for this header: behind the given text it is
merged of the new value and the values given before, behind the text written anew of the new value
and the text that these had been merged to.  So both are the same exactly if these two are, and in
particular if no two different values had been given. -/
theorem decode_exchange {uri name value : Text} {t : Table} (hrelative : IsRelative uri)
    (htrim : Text.trim uri = uri) (hdecode : decode uri = .ok t)
    (hround : decode t.encode = .ok t) (hglues : ¬ Glues uri) (hname : name ≠ [] ∧ ':' ∉ name)
    (hvalue : value ≠ []) :
    let given := givenTo uri name
    let kept := (t.headers.get? name).toList
    kept = (if given = [] then [] else [Header.merged given]) ∧
      decode (appendPair uri (headerPair name value)) =
        .ok (t.withHeader name (Header.merged (value :: given))) ∧
      decode (appendPair t.encode (headerPair name value)) =
        .ok (t.withHeader name (Header.merged (value :: kept))) ∧
      (decode (appendPair t.encode (headerPair name value)) =
          decode (appendPair uri (headerPair name value)) ↔
        Header.merged (value :: kept) = Header.merged (value :: given)) ∧
      ((∀ v ∈ given, ∀ w ∈ given, v = w) →
        decode (appendPair t.encode (headerPair name value)) =
          decode (appendPair uri (headerPair name value))) := by
  intro given kept
  have hplain := isRelative_of_decode_encode hround
  have hlegible := Legible.of_decode_encode hplain hround
  have hkept : kept = if given = [] then [] else [Header.merged given] :=
    toList_header_of_decode hdecode name
  have hdirect := decode_appendPair_header hrelative htrim hdecode hglues hname hvalue
  have hnormal := decode_appendPair_header hplain hlegible.trim_encode_eq hround
    (not_glues_encode hlegible.path_plain) hname hvalue
  rw [givenTo_encode hround] at hnormal
  have hiff : decode (appendPair t.encode (headerPair name value)) =
        decode (appendPair uri (headerPair name value)) ↔
      Header.merged (value :: kept) = Header.merged (value :: given) := by
    rw [hdirect, hnormal, Except.ok.injEq, withHeader_inj]
  refine ⟨hkept, hdirect, hnormal, hiff, fun hone => hiff.2 ?_⟩
  rw [hkept]
  exact Header.merged_cons_merged value hone

/-- A table with a header of two values. -/
def twoValuesTable : Table :=
  ⟨"/a".toList, Params.empty, Dictionary.empty.insert "k".toList "b,d".toList, none,
    defaultFragment⟩

set_option maxRecDepth 100000 in
theorem decode_exchange_twoValuesTable :
    let uri := "/a?header=k:d&header=k:b".toList
    decode uri = .ok twoValuesTable ∧
      decode twoValuesTable.encode = .ok twoValuesTable ∧
      decode (appendPair twoValuesTable.encode (headerPair "k".toList "a".toList)) =
        decode (appendPair uri (headerPair "k".toList "a".toList)) := by
  intro uri
  have hdecode : decode uri = .ok twoValuesTable := by decide +kernel
  have hround : decode twoValuesTable.encode = .ok twoValuesTable := by decide +kernel
  have hvalue : "a".toList ≠ [] := by decide
  have hname : "k".toList ≠ [] ∧ ':' ∉ "k".toList := by decide
  obtain ⟨-, -, -, hiff, -⟩ :=
    decode_exchange (by decide) (by decide) hdecode hround (by decide) hname hvalue
  exact ⟨hdecode, hround, hiff.2 (by decide +kernel)⟩

set_option maxRecDepth 100000 in
/-- A value that belongs between two others does not come between them once they were joined. -/
theorem not_exchanged_twoValuesTable :
    let uri := "/a?header=k:b&header=k:d".toList
    IsRelative uri ∧ Text.trim uri = uri ∧ decode uri = .ok twoValuesTable ∧
      decode twoValuesTable.encode = .ok twoValuesTable ∧
      decode (appendPair uri (headerPair "k".toList "c".toList)) =
        .ok (twoValuesTable.withHeader "k".toList "b,c,d".toList) ∧
      decode (appendPair twoValuesTable.encode (headerPair "k".toList "c".toList)) =
        .ok (twoValuesTable.withHeader "k".toList "b,d,c".toList) ∧
      decode (appendPair twoValuesTable.encode (headerPair "k".toList "c".toList)) ≠
        decode (appendPair uri (headerPair "k".toList "c".toList)) := by
  decide +kernel

end Table

end Pushdown
