/-
**Pairs in another order.**

A query carries three kinds of pairs, and each kind is read on its own: parameters keep their order,
headers are a set of values under each name, and of several bodies the last one counts.  How the
kinds stand among each other does not matter, and neither does it matter how often and in which
order headers are repeated or which numbers their pairs have.  That is why pairs can be written
behind the headers and the body that a written table ends in.

Main definitions:

* `Table.counted` — the pairs that have a value;
* `Table.ordinaryPairs`, `Table.headersIn`, `Table.bodiesIn` — the three kinds;
* `Table.Readable` — every header pair has a colon and every body is JSON;
* `Table.partsOf` — the parts of a query, kind by kind;
* `Table.SameKinds` — two rows of pairs agree kind by kind.

Main results:

* `Table.addPair_partsOf` — one more pair goes to its own kind;
* `Table.addPairs_eq_partsOf` — a row of pairs is read kind by kind;
* `Table.decode_of_readable` — the table that a readable text stands for;
* `Table.decode_eq_of_sameKinds` — **texts whose pairs agree kind by kind are read alike**.
-/

import Mathlib.Data.List.Induction
import Pushdown.Proofs.Table.Growth

set_option autoImplicit false

namespace Pushdown

namespace Table

/-! ### The three kinds -/

/-- The pairs that have a value. -/
def counted (pairs : List (Text × Text)) : List (Text × Text) :=
  pairs.filter fun pair => pair.2 ≠ []

/-- The parameters among pairs, in order. -/
def ordinaryPairs (pairs : List (Text × Text)) : List (Text × Text) :=
  pairs.filter fun pair => IsOrdinary pair.1

/-- The headers among pairs, in order. -/
def headersIn (pairs : List (Text × Text)) : List Header :=
  (pairs.filter fun pair => headerPrefix <+: pair.1).filterMap fun pair => Header.parse? pair.2

/-- The texts of the bodies among pairs, in order. -/
def bodiesIn (pairs : List (Text × Text)) : List Text :=
  (pairs.filter fun pair => pair.1 = bodyName).map Prod.snd

/-- Every header pair has a colon and every body is JSON. -/
structure Readable (pairs : List (Text × Text)) : Prop where
  headers : ∀ pair ∈ pairs, headerPrefix <+: pair.1 → ':' ∈ pair.2
  bodies : ∀ pair ∈ pairs, pair.1 = bodyName → ∃ body, Json.parse pair.2 = .ok body

/-- The body that a text stands for, if it is one. -/
def body? (s : Text) : Option Json := (Json.parse s).toOption

theorem isSome_body?_iff {s : Text} :
    (body? s).isSome = true ↔ ∃ body, Json.parse s = .ok body := by
  rw [body?]
  cases Json.parse s with
  | error e => simp [Except.toOption]
  | ok body => simp [Except.toOption]

instance (pairs : List (Text × Text)) : Decidable (Readable pairs) :=
  decidable_of_iff ((∀ pair ∈ pairs, headerPrefix <+: pair.1 → ':' ∈ pair.2) ∧
      ∀ pair ∈ pairs, pair.1 = bodyName → (body? pair.2).isSome = true) <| by
    simp only [isSome_body?_iff]
    exact ⟨fun ⟨h, b⟩ => ⟨h, b⟩, fun ⟨h, b⟩ => ⟨h, b⟩⟩

/-- The parts of a query, kind by kind; of the bodies the last one counts. -/
def partsOf (pairs : List (Text × Text)) : QueryParts where
  params := Params.ofPairs (ordinaryPairs pairs)
  headers := headersIn pairs
  body := (bodiesIn pairs).getLast?.bind body?

/-! ### Reading kind by kind -/

/-- Pairs without a value count for nothing. -/
theorem addPairs_counted (parts : QueryParts) (pairs : List (Text × Text)) :
    addPairs parts (counted pairs) = addPairs parts pairs := by
  induction pairs generalizing parts with
  | nil => rfl
  | cons pair pairs ih =>
      obtain ⟨name, value⟩ := pair
      by_cases hvalue : value = []
      · subst hvalue
        rw [counted, List.filter_cons_of_neg (by simp)]
        exact ih parts
      · rw [counted, List.filter_cons_of_pos (by simpa using hvalue), addPairs, addPairs]
        cases addPair parts name value with
        | error e => rfl
        | ok parts => exact ih parts

/-- One more pair goes to its own kind. -/
theorem addPair_partsOf (pairs : List (Text × Text)) {name value : Text} (hvalue : value ≠ [])
    (h : Readable [(name, value)]) :
    addPair (partsOf pairs) name value = .ok (partsOf (pairs ++ [(name, value)])) := by
  by_cases hheader : headerPrefix <+: name
  · have hordinary : ¬ IsOrdinary name := fun ho => ho.1 hheader
    have hbody : name ≠ bodyName := by
      rintro rfl
      exact absurd hheader (by decide)
    cases hparse : Header.parse? value with
    | none =>
        have hcolon := h.headers _ List.mem_cons_self hheader
        rw [Header.parse?, Option.map_eq_none_iff, Text.splitFirst?_eq_none_iff] at hparse
        exact absurd hcolon hparse
    | some header =>
        rw [addPair_header hheader hvalue, hparse]
        simp [partsOf, ordinaryPairs, headersIn, bodiesIn, hheader, hordinary, hbody, hparse]
  by_cases hbody : name = bodyName
  · subst hbody
    obtain ⟨body, hparse⟩ := h.bodies _ List.mem_cons_self rfl
    have hordinary : ¬ IsOrdinary bodyName := fun ho => ho.2 rfl
    rw [addPair_body hvalue, hparse]
    simp [partsOf, ordinaryPairs, headersIn, bodiesIn, hheader, hordinary, body?, hparse,
      Except.toOption]
  · have hordinary : IsOrdinary name := ⟨hheader, hbody⟩
    rw [addPair_ordinary hordinary hvalue]
    simp [partsOf, ordinaryPairs, headersIn, bodiesIn, hheader, hordinary, hbody, Params.ofPairs,
      List.foldl_append]

/-- A row of pairs is read kind by kind. -/
theorem addPairs_eq_partsOf {pairs : List (Text × Text)} (hvalues : ∀ pair ∈ pairs, pair.2 ≠ [])
    (h : Readable pairs) : addPairs ⟨Params.empty, [], none⟩ pairs = .ok (partsOf pairs) := by
  -- The last pair is read behind the parts of those in front of it.
  induction pairs using List.reverseRecOn with
  | nil => rfl
  | append_singleton pairs pair ih =>
      have hfront : Readable pairs :=
        ⟨fun x hx => h.headers x (List.mem_append_left _ hx),
          fun x hx => h.bodies x (List.mem_append_left _ hx)⟩
      have hlast : Readable [pair] :=
        ⟨fun x hx => h.headers x (List.mem_append_right _ hx),
          fun x hx => h.bodies x (List.mem_append_right _ hx)⟩
      have hread := ih (fun x hx => hvalues x (List.mem_append_left _ hx)) hfront
      have hvalue := hvalues pair (List.mem_append_right _ List.mem_cons_self)
      rw [addPairs_append, hread]
      simp only [addPairs, addPair_partsOf pairs hvalue hlast]

/-! ### Texts -/

/-- The pairs of the query of a text that have a value. -/
def pairsOf (s : Text) : List (Text × Text) := counted (Form.readPairs (queryOf (Text.trim s)))

/-- The table that a readable text stands for. -/
theorem decode_of_readable {s : Text} (hs : IsRelative s) (h : Readable (pairsOf s)) :
    decode s = (readFragment ((fragmentOf? (Text.trim s)).getD [])).map fun fragment =>
      ⟨pathOf (Text.trim s), (partsOf (pairsOf s)).params,
        Header.mergeAll (partsOf (pairsOf s)).headers, (partsOf (pairsOf s)).body, fragment⟩ := by
  have htrim : IsRelative (Text.trim s) := fun hm => hs (hm.trans (Text.trim_isInfix s))
  have hvalues : ∀ pair ∈ pairsOf s, pair.2 ≠ [] := by
    intro pair hpair
    simpa using (List.mem_filter.1 hpair).2
  have hread : readQuery (queryOf (Text.trim s)) = .ok (partsOf (pairsOf s)) := by
    rw [readQuery, ← addPairs_counted]
    exact addPairs_eq_partsOf hvalues h
  rw [decode, scan, split_eq_parts htrim]
  simp only [hread]
  cases readFragment ((fragmentOf? (Text.trim s)).getD []) with
  | error e => rfl
  | ok fragment => rfl

/-- Two rows of pairs agree kind by kind: they have the same parameters in the same order, the same
set of headers with a name and a value, and the same last body. -/
structure SameKinds (a b : List (Text × Text)) : Prop where
  params : ordinaryPairs a = ordinaryPairs b
  headers : ∀ x : Header, x.name ≠ [] → x.value ≠ [] → (x ∈ headersIn a ↔ x ∈ headersIn b)
  body : (bodiesIn a).getLast? = (bodiesIn b).getLast?

instance (a b : List (Text × Text)) : Decidable (SameKinds a b) :=
  decidable_of_iff (ordinaryPairs a = ordinaryPairs b ∧
      ((∀ x ∈ headersIn a, x.name ≠ [] → x.value ≠ [] → x ∈ headersIn b) ∧
        ∀ x ∈ headersIn b, x.name ≠ [] → x.value ≠ [] → x ∈ headersIn a) ∧
      (bodiesIn a).getLast? = (bodiesIn b).getLast?) <| by
    constructor
    · rintro ⟨hparams, ⟨hforth, hback⟩, hbody⟩
      exact ⟨hparams, fun x hn hv => ⟨fun hx => hforth x hx hn hv, fun hx => hback x hx hn hv⟩,
        hbody⟩
    · rintro ⟨hparams, hheaders, hbody⟩
      exact ⟨hparams, ⟨fun x hx hn hv => (hheaders x hn hv).1 hx,
        fun x hx hn hv => (hheaders x hn hv).2 hx⟩, hbody⟩

/-- **Texts whose pairs agree kind by kind are read alike.**  Take two relative texts that have,
without the blanks at their ends, the same path and the same fragment.  If every header pair has a
colon, every body is JSON, and the pairs that have a value agree kind by kind, then both texts stand
for the same table, or both fail for the same reason. -/
theorem decode_eq_of_sameKinds {s t : Text} (hs : IsRelative s) (ht : IsRelative t)
    (hpath : pathOf (Text.trim s) = pathOf (Text.trim t))
    (hfragment : (fragmentOf? (Text.trim s)).getD [] = (fragmentOf? (Text.trim t)).getD [])
    (hreadable : Readable (pairsOf s) ∧ Readable (pairsOf t))
    (hsame : SameKinds (pairsOf s) (pairsOf t)) : decode s = decode t := by
  have hheaders := Header.mergeAll_congr hsame.headers
  rw [decode_of_readable hs hreadable.1, decode_of_readable ht hreadable.2, hpath, hfragment]
  simp only [partsOf, hsame.params, hheaders, hsame.body]

/-- A text with its parameters first, then headers and the body. -/
def sortedText : Text := "/a?x=1&y=%26&x=2&header1=k:u&header2=k:v&body=[]#f".toList

/-- The same with the kinds mixed, repeated headers, pairs that count for nothing and blanks. -/
def mixedText : Text :=
  " /a?body={}&header=k:v&x=1&z=&header9=k:u&header=k:&y=%26&headers=k:v&body=%5B]&x=2#f ".toList

theorem decode_mixedText :
    SameKinds (pairsOf mixedText) (pairsOf sortedText) ∧
      decode mixedText = decode sortedText ∧
      decode sortedText = .ok ⟨"/a".toList,
        Params.ofPairs
          [("x".toList, "1".toList), ("y".toList, "&".toList), ("x".toList, "2".toList)],
        Dictionary.ofList [("k".toList, "u,v".toList)], some (.array []), "f".toList⟩ := by
  have hrelative : IsRelative mixedText ∧ IsRelative sortedText := by decide +kernel
  have hreadable : Readable (pairsOf mixedText) ∧ Readable (pairsOf sortedText) := by
    decide +kernel
  have hsame : SameKinds (pairsOf mixedText) (pairsOf sortedText) := by decide +kernel
  exact ⟨hsame, decode_eq_of_sameKinds hrelative.1 hrelative.2 (by decide +kernel)
    (by decide +kernel) hreadable hsame, by decide +kernel⟩

end Table

end Pushdown
