/-
**Reading a table that has grown.**

A pair that was appended to a table is read behind the pairs that were there, unless the text of the
table makes something else of it: a query that ends in a question mark of its own takes the pair for
a part of its last value, and an absolute URL may read its end in another way once something
follows.  Path and fragment stay as they are.

Main definitions:

* `Table.pathOf`, `Table.queryOf`, `Table.fragmentOf?` — the parts of a text by its first marks;
* `Table.Glues` — a pair that is appended sticks to the last value;
* `Table.Extensible` — a pair can be appended;
* `Table.Opens` — a query that was made ready for a further pair.

Main results:

* `Table.appendPair_parts` — where a pair goes;
* `Table.split_appendPair` — a table with one more pair is cut like the table;
* `Table.scan_appendPair_iff` — **the pair is read behind the others**;
* `Table.extensible_appendPair` — further pairs can be appended behind it.
-/

import Pushdown.Proofs.Table.Append
import Pushdown.Proofs.Table.RoundTrip

set_option autoImplicit false

namespace Pushdown

namespace Table

/-! ### Parts of a text -/

/-- Every text is put together of a path, a query and a fragment. -/
theorem exists_parts (uri : Text) :
    ∃ a q tail, uri = a ++ (q ++ tail) ∧ Url.Plain a ∧ Url.IsQuery q ∧ '#' ∉ q ∧
      Url.IsTail tail := by
  obtain ⟨front, tail, rfl, hfront, htail⟩ := exists_front_tail uri
  cases h : Text.splitFirst? '?' front with
  | none =>
      have hmark := Text.splitFirst?_eq_none_iff.1 h
      refine ⟨front, [], tail, rfl, fun c hc => ⟨?_, ?_⟩, Or.inl rfl, List.not_mem_nil, htail⟩
      · rintro rfl
        exact hmark hc
      · rintro rfl
        exact hfront hc
  | some halves =>
      obtain ⟨rfl, hmark⟩ := Text.eq_append_of_splitFirst? h
      refine ⟨halves.1, '?' :: halves.2, tail, List.append_assoc .., fun c hc => ⟨?_, ?_⟩,
        Or.inr ⟨_, rfl⟩, fun hm => hfront (List.mem_append_right _ hm), htail⟩
      · rintro rfl
        exact hmark hc
      · rintro rfl
        exact hfront (List.mem_append_left _ hc)

/-- A query that was made ready for a further pair: it is as before if it is empty or ends in `&`,
and otherwise it got an `&`. -/
def Opens (query k : Text) : Prop :=
  k = query ++ ['&'] ∨ k = query ∧ (query = [] ∨ ∃ front, query = front ++ ['&'])

/-- The text in front of the fragment ends in a question mark that is not its first one. -/
def Glues (uri : Text) : Prop :=
  (Text.before '#' uri).getLast? = some '?' ∧ '?' ∈ (Text.before '#' uri).dropLast

instance (uri : Text) : Decidable (Glues uri) := inferInstanceAs (Decidable (_ ∧ _))

theorem before_append {front tail : Text} (hfront : '#' ∉ front) (htail : Url.IsTail tail) :
    Text.before '#' (front ++ tail) = front := by
  rcases htail with rfl | ⟨fragment, rfl⟩
  · simp [Text.before, Text.splitFirst?_eq_none_iff.2 hfront]
  · simp [Text.before, Text.splitFirst?_append hfront]

theorem not_mem_front {a q : Text} (ha : Url.Plain a) (hhash : '#' ∉ q) : '#' ∉ a ++ q := by
  intro hm
  rcases List.mem_append.1 hm with hm | hm
  · exact (ha '#' hm).2 rfl
  · exact hhash hm

theorem pairSeparator_of_last {front : Text} {c : Char} (hmark : '?' ∈ front)
    (hlast : front.getLast? = some c) :
    pairSeparator front = if c = '&' ∨ c = '?' then [] else ['&'] := by
  simp only [pairSeparator, List.contains_iff_mem.2 hmark, hlast, Bool.not_true,
    Bool.false_eq_true, if_false]
  split
  · next heq => simp [Option.some.inj heq]
  · next heq => simp [Option.some.inj heq]
  · next hamp hquestion =>
      rw [if_neg]
      rintro (rfl | rfl)
      · exact hamp rfl
      · exact hquestion rfl

/-- A query to which no pair sticks has no question mark of its own at its end. -/
theorem query_of_not_glues {a q tail : Text} (ha : Url.Plain a) (hhash : '#' ∉ q)
    (htail : Url.IsTail tail) (hglues : ¬ Glues (a ++ (q ++ tail))) (front : Text) :
    q ≠ '?' :: (front ++ ['?']) := by
  rintro rfl
  have hbefore := before_append (not_mem_front ha hhash) htail
  have hwhole : a ++ '?' :: (front ++ ['?']) = (a ++ '?' :: front) ++ ['?'] := by simp
  rw [List.append_assoc, hwhole] at hbefore
  rw [Glues, hbefore, List.getLast?_concat, List.dropLast_concat] at hglues
  exact hglues ⟨rfl, List.mem_append_right _ List.mem_cons_self⟩

/-- With its separator, the text in front of the fragment has a query that was made ready. -/
theorem append_pairSeparator {a q : Text} (ha : Url.Plain a) (hq : Url.IsQuery q)
    (hend : ∀ front, q ≠ '?' :: (front ++ ['?'])) :
    ∃ k, Opens q.tail k ∧ a ++ q ++ pairSeparator (a ++ q) = a ++ '?' :: k := by
  rcases hq with rfl | ⟨query, rfl⟩
  · have hmark : '?' ∉ a := fun hm => (ha '?' hm).1 rfl
    have hsep : pairSeparator (a ++ []) = ['?'] := by simp [pairSeparator, hmark]
    exact ⟨[], Or.inr ⟨rfl, Or.inl rfl⟩, by rw [hsep, List.append_nil]⟩
  · have hmem : '?' ∈ a ++ '?' :: query := List.mem_append_right _ List.mem_cons_self
    rcases List.eq_nil_or_concat query with rfl | ⟨front, c, rfl⟩
    · have hsep : pairSeparator (a ++ ['?']) = [] := by
        rw [pairSeparator_of_last hmem List.getLast?_concat]
        rfl
      exact ⟨[], Or.inr ⟨rfl, Or.inl rfl⟩, by rw [hsep, List.append_nil]⟩
    · rw [List.concat_eq_append] at *
      have hlast : (a ++ '?' :: (front ++ [c])).getLast? = some c := by
        rw [List.getLast?_append_of_ne_nil _ (by simp), ← List.cons_append,
          List.getLast?_concat]
      have hsep := pairSeparator_of_last hmem hlast
      by_cases hamp : c = '&'
      · subst hamp
        rw [if_pos (Or.inl rfl)] at hsep
        exact ⟨front ++ ['&'], Or.inr ⟨rfl, Or.inr ⟨front, rfl⟩⟩, by
          rw [hsep, List.append_nil]⟩
      · have hne : c ≠ '?' := by
          rintro rfl
          exact hend front rfl
        rw [if_neg (not_or.2 ⟨hamp, hne⟩)] at hsep
        exact ⟨front ++ [c] ++ ['&'], Or.inl rfl, by rw [hsep]; simp⟩

/-- Where a pair goes: behind the query, which is made ready for it. -/
theorem appendPair_parts {a q tail : Text} (ha : Url.Plain a) (hq : Url.IsQuery q)
    (hhash : '#' ∉ q) (htail : Url.IsTail tail) (hglues : ¬ Glues (a ++ (q ++ tail))) :
    ∃ k, Opens q.tail k ∧
      ∀ pair, appendPair (a ++ (q ++ tail)) pair = a ++ (('?' :: (k ++ pair)) ++ tail) := by
  obtain ⟨k, hopens, hfront⟩ :=
    append_pairSeparator ha hq (query_of_not_glues ha hhash htail hglues)
  refine ⟨k, hopens, fun pair => ?_⟩
  rw [← List.append_assoc a, appendPair_eq (not_mem_front ha hhash) htail, hfront]
  simp

/-! ### Parts of a text by its first marks -/

/-- The text in front of the first `?` or `#`. -/
def pathOf (uri : Text) : Text := uri.takeWhile fun c => c != '?' && c != '#'

/-- The text between the first `?` and the first `#`; it is empty if there is no `?` in front of the
`#`. -/
def queryOf (uri : Text) : Text :=
  ((Text.splitFirst? '?' (Text.before '#' uri)).map Prod.snd).getD []

/-- The text behind the first `#`, if there is one. -/
def fragmentOf? (uri : Text) : Option Text := (Text.splitFirst? '#' uri).map Prod.snd

theorem pathOf_parts {a q tail : Text} (ha : Url.Plain a) (hq : Url.IsQuery q)
    (htail : Url.IsTail tail) : pathOf (a ++ (q ++ tail)) = a :=
  congrArg Prod.fst (Url.splitPath_append ha (hq.isRest htail))

theorem queryOf_parts {a q tail : Text} (ha : Url.Plain a) (hq : Url.IsQuery q) (hhash : '#' ∉ q)
    (htail : Url.IsTail tail) : queryOf (a ++ (q ++ tail)) = q.tail := by
  have hmark : '?' ∉ a := fun hm => (ha '?' hm).1 rfl
  rw [queryOf, ← List.append_assoc, before_append (not_mem_front ha hhash) htail]
  rcases hq with rfl | ⟨query, rfl⟩
  · rw [List.append_nil, Text.splitFirst?_eq_none_iff.2 hmark]
    rfl
  · rw [Text.splitFirst?_append hmark]
    rfl

theorem fragmentOf?_append {front tail : Text} (hfront : '#' ∉ front) (htail : Url.IsTail tail) :
    fragmentOf? (front ++ tail) = fragmentOf? tail := by
  rcases htail with rfl | ⟨fragment, rfl⟩
  · rw [List.append_nil, fragmentOf?, Text.splitFirst?_eq_none_iff.2 hfront]
    rfl
  · rw [fragmentOf?, Text.splitFirst?_append hfront]
    rfl

/-! ### Absolute and relative texts -/

theorem infix_mark_iff {a b : Text} {c : Char} (hc : c ∉ "://".toList) :
    "://".toList <:+: a ++ c :: b ↔ "://".toList <:+: a ∨ "://".toList <:+: b := by
  constructor
  · exact Text.infix_append_cons hc
  · rintro (h | h)
    · exact h.trans (List.prefix_append _ _).isInfix
    · exact h.trans ((List.suffix_cons c b).trans (List.suffix_append _ _)).isInfix

theorem infix_tail_iff {s tail : Text} (htail : Url.IsTail tail) :
    "://".toList <:+: s ++ tail ↔ "://".toList <:+: s ∨ "://".toList <:+: tail := by
  have hnil : ¬ "://".toList <:+: [] := by decide
  rcases htail with rfl | ⟨fragment, rfl⟩
  · rw [List.append_nil, or_iff_left hnil]
  · have h := infix_mark_iff (a := []) (b := fragment) (c := '#') (by decide)
    rw [List.nil_append, or_iff_right hnil] at h
    rw [infix_mark_iff (by decide), h]

/-- Query characters hold no `://`. -/
theorem not_infix_of_isQueryChar {pair : Text} (hpair : ∀ c ∈ pair, isQueryChar c = true) :
    ¬ "://".toList <:+: pair := by
  intro h
  have hslash := hpair '/' (h.subset (by decide))
  exact absurd hslash (by decide)

/-- Making a query ready and adding a pair brings no `://` and takes none away. -/
theorem Opens.infix_iff {query k pair : Text} (h : Opens query k)
    (hpair : ∀ c ∈ pair, isQueryChar c = true) :
    "://".toList <:+: k ++ pair ↔ "://".toList <:+: query := by
  have hnot := not_infix_of_isQueryChar hpair
  have hnil : ¬ "://".toList <:+: [] := by decide
  rcases h with rfl | ⟨rfl, rfl | ⟨front, rfl⟩⟩
  · rw [List.append_assoc, List.singleton_append, infix_mark_iff (by decide),
      or_iff_left hnot]
  · simp only [List.nil_append]
    exact iff_of_false hnot hnil
  · rw [List.append_assoc, List.singleton_append, infix_mark_iff (by decide),
      infix_mark_iff (by decide), or_iff_left hnot, or_iff_left hnil]

/-- A further pair makes no text absolute and none relative. -/
theorem isRelative_parts_iff {a q tail k pair : Text} (hq : Url.IsQuery q)
    (htail : Url.IsTail tail) (hopens : Opens q.tail k)
    (hpair : ∀ c ∈ pair, isQueryChar c = true) :
    IsRelative (a ++ (('?' :: (k ++ pair)) ++ tail)) ↔ IsRelative (a ++ (q ++ tail)) := by
  refine not_congr ?_
  rw [← List.append_assoc a, ← List.append_assoc a, infix_tail_iff htail, infix_tail_iff htail,
    infix_mark_iff (by decide), hopens.infix_iff hpair]
  rcases hq with rfl | ⟨query, rfl⟩
  · have hnil : ¬ "://".toList <:+: [] := by decide
    rw [List.append_nil, List.tail_nil, or_iff_left hnil]
  · rw [infix_mark_iff (by decide)]
    rfl

/-! ### Cuts -/

theorem Opens.readPairs {query k : Text} (h : Opens query k) (pair : Text) :
    Form.readPairs (k ++ pair) = Form.readPairs query ++ Form.readPairs pair := by
  rcases h with rfl | ⟨rfl, rfl | ⟨front, rfl⟩⟩
  · rw [List.append_assoc, List.singleton_append, Form.readPairs_append_cons]
  · rfl
  · rw [List.append_assoc, List.singleton_append, Form.readPairs_append_cons,
      Form.readPairs_append_cons, Form.readPairs_nil, List.append_nil]

/-- A way to write queries that keeps query characters at the end. -/
structure Keeps (written : Text → Text) : Prop where
  nil : written [] = []
  append : ∀ query pair, (∀ c ∈ pair, isQueryChar c = true) →
    written (query ++ pair) = written query ++ pair

theorem Opens.written {query k : Text} (h : Opens query k) {written : Text → Text}
    (hwritten : Keeps written) : Opens (written query) (written k) := by
  have hamp : ∀ c ∈ ['&'], isQueryChar c = true := by decide
  rcases h with rfl | ⟨rfl, rfl | ⟨front, rfl⟩⟩
  · exact Or.inl (hwritten.append query _ hamp)
  · exact Or.inr ⟨rfl, Or.inl hwritten.nil⟩
  · exact Or.inr ⟨rfl, Or.inr ⟨written front, hwritten.append front _ hamp⟩⟩

/-- A table text that was cut, and its query made ready for a further pair. -/
structure Cut where
  path : Text
  query : Text
  ready : Text
  fragment : Text
  opens : Opens query ready

/-- A pair can be appended: it does not stick to the last value, and the end of an absolute URL is
its fragment or no character that could change its meaning. -/
structure Extensible (uri : Text) : Prop where
  not_glues : ¬ Glues uri
  closed : ¬ IsRelative uri → '#' ∉ uri →
    ∀ c ∈ uri.getLast?, Url.isControlOrSpace c = false ∧ c ≠ '@'

theorem extensible_iff {uri : Text} :
    Extensible uri ↔ ¬ Glues uri ∧ (¬ IsRelative uri → '#' ∉ uri →
      ∀ c ∈ uri.getLast?, Url.isControlOrSpace c = false ∧ c ≠ '@') :=
  ⟨fun ⟨h₁, h₂⟩ => ⟨h₁, h₂⟩, fun ⟨h₁, h₂⟩ => ⟨h₁, h₂⟩⟩

instance (uri : Text) : Decidable (Extensible uri) := decidable_of_iff _ extensible_iff.symm

theorem split_relative_parts {a q tail : Text} (ha : Url.Plain a) (hq : Url.IsQuery q)
    (hhash : '#' ∉ q) (htail : Url.IsTail tail) (h : IsRelative (a ++ (q ++ tail))) :
    split (a ++ (q ++ tail)) = .ok (a, q.tail, tail.tail) := by
  have hmark : '?' ∉ a := fun hm => (ha '?' hm).1 rfl
  have hfront := not_mem_front ha hhash
  have hhalves : (Text.splitFirst? '#' (a ++ (q ++ tail))).getD (a ++ (q ++ tail), []) =
      (a ++ q, tail.tail) := by
    rw [← List.append_assoc]
    rcases htail with rfl | ⟨fragment, rfl⟩
    · rw [List.append_nil, Text.splitFirst?_eq_none_iff.2 hfront]
      rfl
    · rw [Text.splitFirst?_append hfront]
      rfl
  rw [split_of_relative h, hhalves]
  rcases hq with rfl | ⟨query, rfl⟩
  · simp [Text.splitFirst?_eq_none_iff.2 hmark]
  · simp [Text.splitFirst?_append hmark]

/-- A relative text is cut at its first marks; without `#` the fragment is empty. -/
theorem split_eq_parts {s : Text} (h : IsRelative s) :
    split s = .ok (pathOf s, queryOf s, (fragmentOf? s).getD []) := by
  obtain ⟨a, q, tail, rfl, ha, hq, hhash, htail⟩ := exists_parts s
  have hfragment : (fragmentOf? (a ++ (q ++ tail))).getD [] = tail.tail := by
    rw [← List.append_assoc, fragmentOf?_append (not_mem_front ha hhash) htail]
    rcases htail with rfl | ⟨fragment, rfl⟩ <;> rfl
  rw [split_relative_parts ha hq hhash htail h, pathOf_parts ha hq htail,
    queryOf_parts ha hq hhash htail, hfragment]

theorem split_absolute {s : Text} (h : ¬ IsRelative s) :
    split s =
      match Url.parse s with
      | .error cause => .error (.url cause)
      | .ok url => .ok (url.path, url.query, url.fragment) := by
  have hmark : Text.isInfix "://".toList s = true :=
    Text.isInfix_iff.2 (Decidable.not_not.1 h)
  cases hparse : Url.parse s with
  | error cause => simp only [split, hmark, hparse, if_true]
  | ok url => simp only [split, hmark, hparse, if_true]

theorem keeps_writtenQuery (kind : Url.SchemeKind) : Keeps (Url.writtenQuery kind) :=
  ⟨rfl, fun query pair hpair => by
    rw [Url.writtenQuery_append, Url.writtenQuery_of_isQueryChar kind hpair]⟩

/-- A query that was made ready and got a pair has no fragment. -/
theorem Opens.hash_not_mem {query k pair : Text} (h : Opens query k) (hquery : '#' ∉ query)
    (hpair : ∀ c ∈ pair, isQueryChar c = true) : '#' ∉ '?' :: (k ++ pair) := by
  intro hm
  rcases List.mem_cons.1 hm with hm | hm
  · exact absurd hm (by decide)
  · rcases List.mem_append.1 hm with hm | hm
    · rcases h with rfl | ⟨rfl, -⟩
      · rcases List.mem_append.1 hm with hm | hm
        · exact hquery hm
        · exact absurd hm (by decide)
      · exact hquery hm
    · exact absurd (hpair '#' hm) (by decide)

/-- The end of a text that got a pair is a query character. -/
theorem last_of_pair {front pair : Text} (hne : pair ≠ [])
    (hpair : ∀ c ∈ pair, isQueryChar c = true) :
    ∀ c ∈ (front ++ pair).getLast?, Url.isControlOrSpace c = false ∧ c ≠ '@' ∧ c ≠ '?' := by
  intro c hc
  rw [List.getLast?_append_of_ne_nil _ hne] at hc
  have hchar := hpair c (List.mem_of_getLast? hc)
  have hbounds := isQueryChar_bounds hchar
  refine ⟨?_, ?_, ?_⟩
  · simp only [Url.isControlOrSpace, decide_eq_false_iff_not]
    omega
  · rintro rfl
    exact absurd hchar (by decide)
  · rintro rfl
    exact absurd hchar (by decide)

/-- A table with one more pair is cut like the table. -/
theorem split_appendPair {uri : Text} (h : Extensible uri) :
    ∃ x : Except DecodeError Cut,
      split uri = x.map (fun cut => (cut.path, cut.query, cut.fragment)) ∧
      ∀ pair, pair ≠ [] → (∀ c ∈ pair, isQueryChar c = true) →
        split (appendPair uri pair) =
          x.map fun cut => (cut.path, cut.ready ++ pair, cut.fragment) := by
  obtain ⟨a, q, tail, rfl, ha, hq, hhash, htail⟩ := exists_parts uri
  obtain ⟨k, hopens, happend⟩ := appendPair_parts ha hq hhash htail h.not_glues
  have hquery : '#' ∉ q.tail := fun hm => hhash (List.mem_of_mem_tail hm)
  by_cases hrelative : IsRelative (a ++ (q ++ tail))
  · refine ⟨.ok ⟨a, q.tail, k, tail.tail, hopens⟩,
      split_relative_parts ha hq hhash htail hrelative, fun pair hne hpair => ?_⟩
    rw [happend]
    exact split_relative_parts ha (Or.inr ⟨_, rfl⟩) (hopens.hash_not_mem hquery hpair) htail
      ((isRelative_parts_iff hq htail hopens hpair).2 hrelative)
  · obtain ⟨x, hx⟩ := Url.parse_parts ha
    have hclosed : tail = [] →
        ∀ c ∈ (a ++ q).getLast?, Url.isControlOrSpace c = false ∧ c ≠ '@' := by
      rintro rfl
      have hclosed := h.closed hrelative
      rw [List.append_nil] at hclosed
      exact hclosed (not_mem_front ha hhash)
    let cut (front : Url.SchemeKind × Text) : Cut :=
      ⟨front.2, Url.writtenQuery front.1 q.tail, Url.writtenQuery front.1 k,
        Url.encodeWith Url.inFragmentSet (Url.cleanedTail tail).tail,
        hopens.written (keeps_writtenQuery front.1)⟩
    refine ⟨(x.map cut).mapError DecodeError.url, ?_, fun pair hne hpair => ?_⟩
    · rw [split_absolute hrelative, hx q tail hq hhash htail hclosed]
      cases x <;> rfl
    · have hrelative' := mt (isRelative_parts_iff (a := a) hq htail hopens hpair).1 hrelative
      rw [happend, split_absolute hrelative',
        hx _ tail (Or.inr ⟨_, rfl⟩) (hopens.hash_not_mem hquery hpair) htail fun _ c hc => ?_]
      · cases x with
        | error e => rfl
        | ok front =>
            simp only [Except.map, Except.mapError, List.tail_cons]
            rw [(keeps_writtenQuery front.1).append k pair hpair]
      · rw [← List.cons_append, ← List.append_assoc] at hc
        exact ⟨(last_of_pair hne hpair c hc).1, (last_of_pair hne hpair c hc).2.1⟩

/-! ### Scans -/

/-- A ready query with a pair is read like the query and then the pair. -/
theorem Opens.readQuery_eq_ok_iff {query k : Text} (h : Opens query k) {pair : Text}
    {parts' : QueryParts} :
    readQuery (k ++ pair) = .ok parts' ↔
      ∃ parts, readQuery query = .ok parts ∧
        addPairs parts (Form.readPairs pair) = .ok parts' := by
  rw [readQuery, h.readPairs, addPairs_append, readQuery]
  cases addPairs ⟨Params.empty, [], none⟩ (Form.readPairs query) with
  | error e => simp
  | ok parts => simp

/-- **The pair is read behind the others.**  A table with one more pair is read like the table and
then the pair, and path and fragment stay. -/
theorem scan_appendPair_iff {uri pair : Text} {r' : Scan} (h : Extensible uri)
    (htrim : Text.trim uri = uri) (hne : pair ≠ [])
    (hpair : ∀ c ∈ pair, isQueryChar c = true) :
    scan (appendPair uri pair) = .ok r' ↔
      ∃ r, scan uri = .ok r ∧ addPairs r.parts (Form.readPairs pair) = .ok r'.parts ∧
        r'.path = r.path ∧ r'.fragment = r.fragment := by
  obtain ⟨x, hsplit, happend⟩ := split_appendPair h
  rw [scan_eq_ok_iff, trim_appendPair htrim hne hpair, happend pair hne hpair]
  constructor
  · rintro ⟨query, fragment, hcut, hquery, hfragment⟩
    obtain ⟨cut, rfl, hcut'⟩ := Outcome.exists_of_map_eq_ok hcut
    obtain ⟨hpath, hrest⟩ := Prod.mk.inj hcut'
    obtain ⟨rfl, rfl⟩ := Prod.mk.inj hrest
    obtain ⟨parts, hparts, hadd⟩ := cut.opens.readQuery_eq_ok_iff.1 hquery
    refine ⟨⟨cut.path, parts, r'.fragment⟩, ?_, hadd, hpath.symm, rfl⟩
    refine scan_eq_ok_iff.2 ⟨cut.query, cut.fragment, ?_, hparts, hfragment⟩
    rw [htrim, hsplit]
    rfl
  · rintro ⟨r, hscan, hadd, hpath, hfragment⟩
    obtain ⟨query, fragment, hcut, hquery, hread⟩ := scan_eq_ok_iff.1 hscan
    rw [htrim, hsplit] at hcut
    obtain ⟨cut, rfl, hcut'⟩ := Outcome.exists_of_map_eq_ok hcut
    obtain ⟨hpath', hrest⟩ := Prod.mk.inj hcut'
    obtain ⟨rfl, rfl⟩ := Prod.mk.inj hrest
    refine ⟨cut.ready ++ pair, cut.fragment, ?_,
      cut.opens.readQuery_eq_ok_iff.2 ⟨r.parts, hquery, hadd⟩, hfragment ▸ hread⟩
    rw [hpath, ← hpath']
    rfl

/-- Further pairs can be appended behind a pair. -/
theorem extensible_appendPair (uri : Text) {pair : Text} (hne : pair ≠ [])
    (hpair : ∀ c ∈ pair, isQueryChar c = true) : Extensible (appendPair uri pair) := by
  obtain ⟨front, tail, rfl, hfront, htail⟩ := exists_front_tail uri
  have hsep : ∀ c ∈ pairSeparator front, c ≠ '#' := by
    unfold pairSeparator
    repeat' split
    all_goals simp
  have hhash : '#' ∉ front ++ pairSeparator front ++ pair := by
    intro hm
    rcases List.mem_append.1 hm with hm | hm
    · rcases List.mem_append.1 hm with hm | hm
      · exact hfront hm
      · exact hsep '#' hm rfl
    · exact absurd (hpair '#' hm) (by decide)
  rw [appendPair_eq hfront htail]
  refine ⟨?_, fun _ htail' c hc => ?_⟩
  · rintro ⟨hlast, -⟩
    rw [before_append hhash htail] at hlast
    exact (last_of_pair hne hpair '?' hlast).2.2 rfl
  · rcases htail with rfl | ⟨fragment, rfl⟩
    · rw [List.append_nil] at hc
      exact ⟨(last_of_pair hne hpair c hc).1, (last_of_pair hne hpair c hc).2.1⟩
    · exact absurd (List.mem_append_right _ List.mem_cons_self) htail'

end Table

end Pushdown
