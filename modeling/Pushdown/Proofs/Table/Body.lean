/-
**Bodies in texts.**

A body is written as compact text in escapes.  Two readers undo the escapes, one that reads a body
alone and refuses octets that are not UTF-8, and the reader of queries, which also takes a plus for
a blank and replaces such octets.  A written body has neither, so both of them give the compact text
back, and from there on the body comes back exactly if the compact text is read as it.

Main definitions:

* `Table.stem` — the text of a table up to its fragment.

Main results:

* `Table.decodeBody_encodeBody_iff` — which bodies come back;
* `Table.Legible.scan_stem` — a legible table is read without its fragment;
* `Table.scan_body` — a text with a body alone is read as this body;
* `Table.body_comes_back` — **a plain body comes back in every reading**.
-/

import Pushdown.Proofs.Json.Nesting
import Pushdown.Proofs.Table.RoundTrip

set_option autoImplicit false

namespace Pushdown

namespace Table

/-! ### Bodies alone -/

/-- A written body is read as its compact text is. -/
theorem decodeBody_encodeBody (b : Json) :
    decodeBody (encodeBody b) = (Json.parse b.compact).mapError DecodeError.body := by
  simp only [decodeBody, encodeBody, Percent.decode_encode]
  cases Json.parse b.compact with
  | error cause => rfl
  | ok body => rfl

/-- Without numbers of double precision, the bodies that come back are the proper ones that nest at
most 127 levels deep. -/
theorem decodeBody_encodeBody_iff {b : Json} (hdouble : b.hasDouble = false) :
    decodeBody (encodeBody b) = .ok b ↔ b.isProper = true ∧ b.levels ≤ 127 := by
  have hparse : decodeBody (encodeBody b) = .ok b ↔ Json.parse b.compact = .ok b := by
    rw [decodeBody_encodeBody]
    cases Json.parse b.compact with
    | error cause => simp [Except.mapError]
    | ok body => simp [Except.mapError]
  rw [hparse]
  exact Json.parse_compact_iff hdouble

/-- Bodies that come back have different texts. -/
theorem eq_of_encodeBody_eq {a b : Json} (ha : decodeBody (encodeBody a) = .ok a)
    (hb : decodeBody (encodeBody b) = .ok b) (h : encodeBody a = encodeBody b) : a = b := by
  rw [h, hb] at ha
  exact (Except.ok.inj ha).symm

/-! ### Tables without a fragment -/

/-- The text of a table up to its fragment. -/
def stem (t : Table) : Text := t.path ++ '?' :: t.query

theorem isRelative_stem {t : Table} (hpath : IsRelative t.path) : IsRelative t.stem := by
  intro h
  rcases Text.infix_append_cons (by decide) h with h | h
  · exact hpath h
  · exact not_mem_query (c := '/') (by decide) t (h.subset (by decide))

theorem trim_stem {t : Table} (hstart : ∀ c ∈ t.path.head?, Text.isBlank c = false) :
    Text.trim t.stem = t.stem := by
  have hpath : Text.trimLeft t.path = t.path := Text.trimLeft_eq_self_iff.2 hstart
  have hquery : Text.trimRight t.query = t.query := by
    refine Text.trimRight_eq_self_iff.2 fun c hc => ?_
    exact isBlank_of_isQueryChar (isQueryChar_query t c (List.mem_of_getLast? hc))
  rw [stem, Text.trim_append_cons (by decide), hpath, hquery]

/-- A text without a fragment is cut into path and query. -/
theorem split_stem {t : Table} (hpath : '?' ∉ t.path ∧ '#' ∉ t.path)
    (hplain : IsRelative t.path) : split t.stem = .ok (t.path, t.query, []) := by
  have hhash : '#' ∉ t.stem :=
    Text.not_mem_append_cons hpath.2 (by decide) (not_mem_query (by decide) t)
  rw [split_of_relative (isRelative_stem hplain), Text.splitFirst?_eq_none_iff.2 hhash]
  simp only [Option.getD_none, stem, Text.splitFirst?_append hpath.1, Option.getD_some]

/-- A legible table is read without its fragment, with the default in its place. -/
theorem Legible.scan_stem {t : Table} (h : t.Legible) (hp : t.params.Grouped)
    (hplain : IsRelative t.path) :
    scan t.stem =
      .ok ⟨t.path, ⟨t.params, Header.ofEntries t.headers.entries, t.body⟩, defaultFragment⟩ := by
  have hfragment : readFragment [] = .ok defaultFragment := rfl
  simp only [scan, trim_stem h.path_start, split_stem h.path_plain hplain, readQuery,
    readPairs_query, h.addPairs_writtenPairs hp, hfragment]

/-! ### Tables with a body alone -/

theorem legible_withBody {path : Text} {b : Json} (hpath : '?' ∉ path ∧ '#' ∉ path)
    (hstart : ∀ c ∈ path.head?, Text.isBlank c = false)
    (hread : Json.parse b.compact = .ok b) : ((ofPath path).withBody b).Legible where
  path_plain := hpath
  path_start := hstart
  params := by
    intro pair hpair
    exact absurd hpair List.not_mem_nil
  headers := by
    intro entry hentry
    exact absurd hentry List.not_mem_nil
  fragment_ne_nil := by
    have hne : defaultFragment ≠ [] := by decide
    exact hne
  fragment_end := by
    have hlast : ∀ c ∈ defaultFragment.getLast?, Text.isBlank c = false := by decide
    exact hlast
  body := by
    intro body hbody
    obtain rfl : b = body := Option.some.inj hbody
    exact hread

/-- A text with a body alone is read as this body and nothing else. -/
theorem scan_body {path : Text} {b : Json} (hpath : '?' ∉ path ∧ '#' ∉ path)
    (hstart : ∀ c ∈ path.head?, Text.isBlank c = false) (hplain : IsRelative path)
    (hread : Json.parse b.compact = .ok b) :
    scan (path ++ "?body=".toList ++ encodeBody b) =
      .ok ⟨path, ⟨Params.empty, [], some b⟩, defaultFragment⟩ := by
  have hstem : path ++ "?body=".toList ++ encodeBody b = ((ofPath path).withBody b).stem := by
    rw [List.append_assoc]
    rfl
  rw [hstem]
  exact (legible_withBody hpath hstart hread).scan_stem (Params.grouped_ofPairs []) hplain

/-- **A plain body comes back in every reading.**  It comes back from its own text; with a path in
front it is read as the body of a table without parameters and headers, in both readings; and no
other plain body has the same text. -/
theorem body_comes_back {b : Json} (h : b.IsPlain) :
    decodeBody (encodeBody b) = .ok b ∧
      decode ("/p?body=".toList ++ encodeBody b) =
        .ok ⟨"/p".toList, Params.empty, Dictionary.empty, some b, "$[*]".toList⟩ ∧
      SingleTable.decode ("/p?body=".toList ++ encodeBody b) =
        .ok ⟨"/p".toList, [], Dictionary.empty, some b, "$[*]".toList⟩ ∧
      ∀ other : Json, other.IsPlain → encodeBody other = encodeBody b → other = b := by
  have hback : ∀ body : Json, body.IsPlain → decodeBody (encodeBody body) = .ok body := by
    intro body hbody
    exact (decodeBody_encodeBody_iff hbody.no_double).2 ⟨hbody.proper, hbody.shallow⟩
  have hlead : "/p?body=".toList = "/p".toList ++ "?body=".toList := by decide
  have hscan : scan ("/p?body=".toList ++ encodeBody b) =
      .ok ⟨"/p".toList, ⟨Params.empty, [], some b⟩, "$[*]".toList⟩ := by
    rw [hlead]
    exact scan_body (by decide) (by decide) (by decide) h.parse_compact
  refine ⟨hback b h, ?_, ?_, ?_⟩
  · rw [decode, hscan]
    rfl
  · rw [SingleTable.decode, hscan]
    rfl
  · intro other hother heq
    exact eq_of_encodeBody_eq (hback other hother) (hback b h) heq

/-- A body with the greatest and the least integers, escapes, a plus and a percent sign, in as many
containers as may nest. -/
def deepBody : Json :=
  Nat.repeat (fun b => .array [b]) 125
    (.object
      [("".toList, .integer 0xFFFFFFFFFFFFFFFF),
        ("\"\\\n\t\x01".toList, .array [.null, .bool true, .string "ü€ \x7f+%&=#".toList]),
        ("a+b%20".toList, .integer (-0x8000000000000000))])

theorem body_comes_back_deepBody :
    deepBody.IsPlain ∧ deepBody.levels = 127 ∧
      decode ("/p?body=".toList ++ encodeBody deepBody) =
        .ok ⟨"/p".toList, Params.empty, Dictionary.empty, some deepBody, "$[*]".toList⟩ := by
  have hplain : deepBody.IsPlain := ⟨by decide +kernel, by decide +kernel, by decide +kernel⟩
  exact ⟨hplain, by decide +kernel, (body_comes_back hplain).2.1⟩

end Table

end Pushdown
