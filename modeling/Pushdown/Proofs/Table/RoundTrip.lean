/-
**Reading back a written table.**

Writing uses three kinds of escapes, one for parameters, one for headers and the body and one for
the fragment, and reading undoes all of them with one form reader, a trim and cuts at the first
separators.  A table comes back from its text exactly when its parts can be told apart in it.

Main definitions:

* `Table.IsRelative` — a text does not count as an absolute URL;
* `Table.Legible` — the parts of a table can be told apart in its text.

Main results:

* `Table.decode_encode_of_path` — reading the text of a table whose path is plain;
* `Table.decode_encode_eq_iff` — **a table comes back from its text exactly when it is legible**.
-/

import Pushdown.Proofs.Outcome
import Pushdown.Proofs.Table.Header
import Pushdown.Proofs.Table.Query

set_option autoImplicit false

namespace Pushdown

namespace Table

/-! ### Stages of a reading -/

/-- A text is read in three stages, each of which has to succeed. -/
theorem scan_eq_ok_iff {s : Text} {r : Scan} :
    scan s = .ok r ↔ ∃ query fragment, split (Text.trim s) = .ok (r.path, query, fragment) ∧
      readQuery query = .ok r.parts ∧ readFragment fragment = .ok r.fragment := by
  constructor
  · intro h
    unfold scan at h
    split at h
    · exact absurd h (by simp)
    · next path query fragment hsplit =>
        split at h
        · exact absurd h (by simp)
        · next parts hparts =>
            split at h
            · exact absurd h (by simp)
            · next read hread =>
                rw [← Except.ok.inj h]
                exact ⟨query, fragment, hsplit, hparts, hread⟩
  · rintro ⟨query, fragment, hsplit, hparts, hread⟩
    simp only [scan, hsplit, hparts, hread]

/-! ### Fragments -/

theorem octets_encodeFragment (f : Text) :
    Percent.octets (encodeFragment f) = Utf8.encode f := by
  induction f with
  | nil => rfl
  | cons c f ih =>
      by_cases hc : c = '%'
      · subst hc
        have hcons : encodeFragment ('%' :: f) = Percent.escapeOctet 37 ++ encodeFragment f := rfl
        rw [hcons, Percent.octets_escapeOctet_append (by decide), ih]
        rfl
      · have hcons : encodeFragment (c :: f) = c :: encodeFragment f := by
          simp [encodeFragment, Text.replaceChar, hc]
        rw [hcons, Percent.octets_cons_of_ne hc, ih]
        rfl

/-- The fragment that stands for a text: an empty text stands for the default. -/
def orDefault (f : Text) : Text := if f = [] then defaultFragment else f

/-- A written fragment is read back, an empty one as the default. -/
theorem readFragment_encodeFragment (f : Text) :
    readFragment (encodeFragment f) = .ok (orDefault f) := by
  unfold readFragment
  rw [Percent.decode, octets_encodeFragment, Utf8.decode_encode]
  cases f with
  | nil => rfl
  | cons c f => rfl

/-- The end of a written fragment is blank only if the end of the fragment is. -/
theorem getLast?_encodeFragment {f : Text} (h : ∀ c ∈ f.getLast?, Text.isBlank c = false) :
    ∀ c ∈ (encodeFragment f).getLast?, Text.isBlank c = false := by
  rcases List.eq_nil_or_concat f with rfl | ⟨g, d, rfl⟩
  · intro c hc
    simp [encodeFragment, Text.replaceChar] at hc
  · have hd : Text.isBlank d = false := h d (by simp)
    intro c hc
    rw [encodeFragment, List.concat_eq_append, Text.replaceChar_append] at hc
    by_cases hp : d = '%'
    · have hlast : Text.replaceChar '%' "%25".toList [d] = ['%', '2', '5'] := by
        simp [Text.replaceChar, hp]
      rw [hlast] at hc
      have hc5 : c = '5' := by simpa using hc.symm
      rw [hc5]
      decide
    · have hlast : Text.replaceChar '%' "%25".toList [d] = [d] := by
        simp [Text.replaceChar, hp]
      rw [hlast] at hc
      have hcd : c = d := by simpa using hc.symm
      rw [hcd]
      exact hd

/-- Trimming the end of a written fragment trims the end of the fragment. -/
theorem trimRight_encodeFragment (f : Text) :
    Text.trimRight (encodeFragment f) = encodeFragment (Text.trimRight f) := by
  obtain ⟨w, hw, hf⟩ := Text.eq_trimRight_append f
  have hplain : encodeFragment w = w :=
    Text.replaceChar_of_not_mem fun hm => absurd (hw '%' hm) (by decide)
  have hsplit : encodeFragment f = encodeFragment (Text.trimRight f) ++ w := by
    conv => lhs; rw [hf]
    rw [encodeFragment, Text.replaceChar_append]
    exact congrArg _ hplain
  rw [hsplit, Text.trimRight_append_blanks hw]
  exact Text.trimRight_eq_self_iff.2 (getLast?_encodeFragment (Text.getLast?_trimRight f))

/-! ### Cutting a written table -/

/-- A text that does not count as an absolute URL. -/
def IsRelative (s : Text) : Prop := ¬ "://".toList <:+: s

/-- Without `://` a text is cut at the first `#` and the first `?`. -/
theorem split_of_relative {s : Text} (h : IsRelative s) :
    split s =
      let halves := (Text.splitFirst? '#' s).getD (s, [])
      let front := (Text.splitFirst? '?' halves.1).getD (halves.1, [])
      .ok (front.1, front.2, halves.2) := by
  rw [split, if_neg]
  rw [Bool.not_eq_true]
  exact Text.isInfix_eq_false_iff.2 h

/-- The first half of a cut, or the whole text, starts the text and lacks the separator. -/
theorem splitFirst?_getD (sep : Char) (s : Text) :
    ((Text.splitFirst? sep s).getD (s, [])).1 <+: s ∧
      sep ∉ ((Text.splitFirst? sep s).getD (s, [])).1 := by
  cases h : Text.splitFirst? sep s with
  | none => exact ⟨List.prefix_refl s, Text.splitFirst?_eq_none_iff.1 h⟩
  | some halves =>
      obtain ⟨hs, hnot⟩ := Text.eq_append_of_splitFirst? h
      refine ⟨?_, hnot⟩
      rw [Option.getD_some, hs]
      exact List.prefix_append _ _

/-- The path of a text without `://` starts it and holds neither `?` nor `#`. -/
theorem path_of_split {s path query fragment : Text} (h : IsRelative s)
    (hsplit : split s = .ok (path, query, fragment)) :
    path <+: s ∧ '?' ∉ path ∧ '#' ∉ path := by
  rw [split_of_relative h] at hsplit
  obtain ⟨hhalf, hhash⟩ := splitFirst?_getD '#' s
  obtain ⟨hpath, hmark⟩ :=
    splitFirst?_getD '?' ((Text.splitFirst? '#' s).getD (s, [])).1
  obtain ⟨rfl, -⟩ := Prod.mk.inj (Except.ok.inj hsplit)
  exact ⟨hpath.trans hhalf, hmark, fun hm => hhash (hpath.subset hm)⟩

theorem hash_not_mem_queryText (t : Table) : '#' ∉ t.queryText := by
  rcases queryText_eq t with ⟨h, -⟩ | h
  · rw [h]
    exact List.not_mem_nil
  · rw [h]
    intro hm
    rcases List.mem_cons.1 hm with hm | hm
    · exact absurd hm (by decide)
    · exact not_mem_query (by decide) t hm

theorem hash_not_mem_front {t : Table} (hpath : '?' ∉ t.path ∧ '#' ∉ t.path) :
    '#' ∉ t.path ++ t.queryText := by
  intro hm
  rcases List.mem_append.1 hm with hm | hm
  · exact hpath.2 hm
  · exact hash_not_mem_queryText t hm

/-- Only path and fragment can bring `://` into the text of a table. -/
theorem isRelative_encode {t : Table} (hpath : IsRelative t.path)
    (hfragment : IsRelative t.fragment) : IsRelative t.encode := by
  intro h
  rcases Text.infix_append_cons (by decide) h with h | h
  · rcases queryText_eq t with ⟨hq, -⟩ | hq
    · rw [hq, List.append_nil] at h
      exact hpath h
    · rw [hq] at h
      rcases Text.infix_append_cons (by decide) h with h | h
      · exact hpath h
      · exact not_mem_query (c := '/') (by decide) t (h.subset (by decide))
  · exact hfragment (Text.infix_of_infix_replaceChar (by decide) (by decide) h)

theorem trim_encode (t : Table) :
    Text.trim t.encode =
      Text.trimLeft (t.path ++ t.queryText) ++
        '#' :: encodeFragment (Text.trimRight t.fragment) := by
  rw [encode, Text.trim_append_cons (by decide), trimRight_encodeFragment]

/-- The text of a table starts with a blank only if its path does. -/
theorem trimLeft_front {t : Table} (hstart : ∀ c ∈ t.path.head?, Text.isBlank c = false) :
    Text.trimLeft (t.path ++ t.queryText) = t.path ++ t.queryText := by
  refine Text.trimLeft_eq_self_iff.2 fun c hc => ?_
  cases hp : t.path with
  | nil =>
      rw [hp, List.nil_append] at hc
      rcases queryText_eq t with ⟨hq, -⟩ | hq
      · rw [hq] at hc
        exact absurd hc (by simp)
      · rw [hq] at hc
        have hmark : c = '?' := by simpa using hc.symm
        rw [hmark]
        decide
  | cons d path =>
      rw [hp] at hc hstart
      exact hstart c hc

/-- A table with a plain path is cut where it was put together. -/
theorem split_trim_encode {t : Table} (hpath : '?' ∉ t.path ∧ '#' ∉ t.path)
    (hstart : ∀ c ∈ t.path.head?, Text.isBlank c = false)
    (hplain : IsRelative t.encode) :
    split (Text.trim t.encode) =
      .ok (t.path, t.query, encodeFragment (Text.trimRight t.fragment)) := by
  have hhash := hash_not_mem_front hpath
  have hsub : IsRelative (Text.trim t.encode) :=
    fun h => hplain (h.trans (Text.trim_isInfix _))
  rw [split_of_relative hsub, trim_encode, trimLeft_front hstart, Text.splitFirst?_append hhash]
  rcases queryText_eq t with ⟨hq, hq'⟩ | hq
  · simp [hq, hq', Text.splitFirst?_eq_none_iff.2 hpath.1]
  · simp [hq, Text.splitFirst?_append hpath.1]

/-- Reading the text of a table whose path is plain. -/
theorem decode_encode_of_path {t : Table} (hpath : '?' ∉ t.path ∧ '#' ∉ t.path)
    (hstart : ∀ c ∈ t.path.head?, Text.isBlank c = false)
    (hplain : IsRelative t.encode) :
    decode t.encode =
      (addPairs ⟨Params.empty, [], none⟩ t.writtenPairs).map fun parts =>
        ⟨t.path, parts.params, Header.mergeAll parts.headers, parts.body,
          orDefault (Text.trimRight t.fragment)⟩ := by
  rw [decode, scan, split_trim_encode hpath hstart hplain]
  simp only [readQuery, readPairs_query, readFragment_encodeFragment]
  cases addPairs ⟨Params.empty, [], none⟩ t.writtenPairs <;> rfl

/-! ### Legible tables -/

/-- The parts of a table can be told apart in its text. -/
structure Legible (t : Table) : Prop where
  path_plain : '?' ∉ t.path ∧ '#' ∉ t.path
  path_start : ∀ c ∈ t.path.head?, Text.isBlank c = false
  params : ∀ pair ∈ t.params.pairs,
    ¬ headerPrefix <+: pair.1 ∧ pair.1 ≠ bodyName ∧ pair.2 ≠ []
  headers : ∀ entry ∈ t.headers.entries, entry.1 ≠ [] ∧ ':' ∉ entry.1 ∧ entry.2 ≠ []
  fragment_ne_nil : t.fragment ≠ []
  fragment_end : ∀ c ∈ t.fragment.getLast?, Text.isBlank c = false
  body : ∀ body ∈ t.body, Json.parse body.compact = .ok body

instance (s : Text) : Decidable (IsRelative s) :=
  decidable_of_iff (Text.isInfix "://".toList s = false) Text.isInfix_eq_false_iff

theorem legible_iff (t : Table) :
    t.Legible ↔ ('?' ∉ t.path ∧ '#' ∉ t.path) ∧
      (∀ c ∈ t.path.head?, Text.isBlank c = false) ∧
      (∀ pair ∈ t.params.pairs, ¬ headerPrefix <+: pair.1 ∧ pair.1 ≠ bodyName ∧ pair.2 ≠ []) ∧
      (∀ entry ∈ t.headers.entries, entry.1 ≠ [] ∧ ':' ∉ entry.1 ∧ entry.2 ≠ []) ∧
      t.fragment ≠ [] ∧ (∀ c ∈ t.fragment.getLast?, Text.isBlank c = false) ∧
      (∀ body ∈ t.body, Json.parse body.compact = .ok body) :=
  ⟨fun ⟨h₁, h₂, h₃, h₄, h₅, h₆, h₇⟩ => ⟨h₁, h₂, h₃, h₄, h₅, h₆, h₇⟩,
    fun ⟨h₁, h₂, h₃, h₄, h₅, h₆, h₇⟩ => ⟨h₁, h₂, h₃, h₄, h₅, h₆, h₇⟩⟩

instance (t : Table) : Decidable t.Legible := decidable_of_iff _ (legible_iff t).symm

/-! ### Legible tables come back -/

theorem addPairs_ordinary (parts : QueryParts) {pairs : List (Text × Text)}
    (h : ∀ pair ∈ pairs, IsOrdinary pair.1 ∧ pair.2 ≠ []) :
    addPairs parts pairs = .ok { parts with params := parts.params.appendPairs pairs } := by
  induction pairs generalizing parts with
  | nil => rfl
  | cons pair pairs ih =>
      obtain ⟨hname, hvalue⟩ := h pair List.mem_cons_self
      simp only [addPairs, addPair_ordinary hname hvalue]
      rw [ih _ fun x hx => h x (List.mem_cons_of_mem _ hx)]
      rfl

theorem addPairs_numbered (parts : QueryParts) (n : Nat) {entries : List (Text × Text)}
    (h : ∀ entry ∈ entries, ':' ∉ entry.1) :
    addPairs parts (numberedPairs n entries) =
      .ok { parts with headers := parts.headers ++ Header.ofEntries entries } := by
  induction entries generalizing parts n with
  | nil => simp [numberedPairs, addPairs, Header.ofEntries]
  | cons entry entries ih =>
      have hparse : Header.parse? (entry.1 ++ ':' :: entry.2) = some ⟨entry.1, entry.2⟩ := by
        simp [Header.parse?, Text.splitFirst?_append (h entry List.mem_cons_self)]
      have hvalue : entry.1 ++ ':' :: entry.2 ≠ [] := by simp
      simp only [numberedPairs, addPairs, addPair_header (List.prefix_append _ _) hvalue, hparse]
      rw [ih _ _ fun x hx => h x (List.mem_cons_of_mem _ hx)]
      simp [Header.ofEntries]

/-- A text that is read as JSON is not empty. -/
theorem ne_nil_of_parse {s : Text} {body : Json} (h : Json.parse s = .ok body) : s ≠ [] := by
  rintro rfl
  have hnil : Json.parse [] = .error .unexpected := rfl
  rw [hnil] at h
  exact absurd h (by simp)

/-- The parts of a legible table are read from its pairs. -/
theorem Legible.addPairs_writtenPairs {t : Table} (h : t.Legible) (hp : t.params.Grouped) :
    addPairs ⟨Params.empty, [], none⟩ t.writtenPairs =
      .ok ⟨t.params, Header.ofEntries t.headers.entries, t.body⟩ := by
  have hparams : Params.empty.appendPairs t.params.pairs = t.params := Params.ofPairs_pairs hp
  have hordinary : ∀ pair ∈ t.params.pairs, IsOrdinary pair.1 ∧ pair.2 ≠ [] := fun pair hpair =>
    ⟨⟨(h.params pair hpair).1, (h.params pair hpair).2.1⟩, (h.params pair hpair).2.2⟩
  rw [writtenPairs, addPairs_append, addPairs_append, addPairs_ordinary _ hordinary]
  simp only
  rw [addPairs_numbered _ _ fun entry he => (h.headers entry he).2.1]
  simp only [hparams, List.nil_append]
  cases hbody : t.body with
  | none => rfl
  | some body =>
      have hread := h.body body hbody
      simp only [bodyPairs, addPairs, addPair_body (ne_nil_of_parse hread), hread]

/-- The text of a legible table has no blanks at its ends. -/
theorem Legible.trim_encode_eq {t : Table} (h : t.Legible) : Text.trim t.encode = t.encode := by
  rw [trim_encode, trimLeft_front h.path_start, Text.trimRight_eq_self_iff.2 h.fragment_end]
  rfl

/-- The parts of a legible table are read from its text. -/
theorem Legible.scan_encode {t : Table} (h : t.Legible) (hp : t.params.Grouped)
    (hplain : IsRelative t.encode) :
    scan t.encode =
      .ok ⟨t.path, ⟨t.params, Header.ofEntries t.headers.entries, t.body⟩, t.fragment⟩ := by
  have hfragment : orDefault (Text.trimRight t.fragment) = t.fragment := by
    rw [Text.trimRight_eq_self_iff.2 h.fragment_end, orDefault, if_neg h.fragment_ne_nil]
  rw [scan, split_trim_encode h.path_plain h.path_start hplain]
  simp only [readQuery, readPairs_query, h.addPairs_writtenPairs hp, readFragment_encodeFragment,
    hfragment]

theorem Legible.decode_encode {t : Table} (h : t.Legible) (hp : t.params.Grouped)
    (hplain : IsRelative t.encode) : decode t.encode = .ok t := by
  have hheaders : Header.mergeAll (Header.ofEntries t.headers.entries) = t.headers :=
    Header.mergeAll_entries _ fun entry he => ⟨(h.headers entry he).1, (h.headers entry he).2.2⟩
  rw [decode, h.scan_encode hp hplain]
  simp only [Except.map, hheaders]

/-! ### Tables that come back are legible -/

/-- A decoded table without `://` in its text has a plain path. -/
theorem path_of_decode {s : Text} {t : Table} (hs : IsRelative s) (h : decode s = .ok t) :
    ('?' ∉ t.path ∧ '#' ∉ t.path) ∧ ∀ c ∈ t.path.head?, Text.isBlank c = false := by
  obtain ⟨r, hr, rfl⟩ := Outcome.exists_of_map_eq_ok h
  obtain ⟨query, fragment, hsplit, -⟩ := scan_eq_ok_iff.1 hr
  have hsub : IsRelative (Text.trim s) := fun hi => hs (hi.trans (Text.trim_isInfix s))
  obtain ⟨⟨rest, hrest⟩, hplain⟩ := path_of_split hsub hsplit
  refine ⟨hplain, fun c hc => Text.head?_trim s c ?_⟩
  rw [← hrest, List.head?_append, Option.mem_def.1 hc]
  rfl

/-- Only a pair with the name of the body changes the body. -/
theorem body_of_addPair {parts parts' : QueryParts} {name value : Text}
    (hname : name ≠ bodyName) (h : addPair parts name value = .ok parts') :
    parts'.body = parts.body := by
  cases adds_of_addPair h with
  | blank => rfl
  | header => rfl
  | body _ heq => exact absurd heq hname
  | param => rfl

theorem body_of_addPairs {parts parts' : QueryParts} {pairs : List (Text × Text)}
    (hname : ∀ pair ∈ pairs, pair.1 ≠ bodyName) (h : addPairs parts pairs = .ok parts') :
    parts'.body = parts.body := by
  refine addPairs_invariant (P := fun read => read.body = parts.body) ?_ rfl h
  intro pair hpair read read' hread hstep
  rw [body_of_addPair (hname pair hpair) hstep, hread]

theorem name_of_mem_numberedPairs {n : Nat} {entries : List (Text × Text)} {pair : Text × Text}
    (h : pair ∈ numberedPairs n entries) : headerPrefix <+: pair.1 := by
  induction entries generalizing n with
  | nil => exact absurd h List.not_mem_nil
  | cons entry entries ih =>
      rcases List.mem_cons.1 h with rfl | h
      · exact List.prefix_append _ _
      · exact ih h

/-- The body that is read from the pairs of a table is the one read from its compact text. -/
theorem body_of_writtenPairs {t : Table} {parts : QueryParts} {body : Json}
    (hparams : ∀ pair ∈ t.params.pairs, pair.1 ≠ bodyName) (hbody : t.body = some body)
    (h : addPairs ⟨Params.empty, [], none⟩ t.writtenPairs = .ok parts)
    (hparts : parts.body = some body) : Json.parse body.compact = .ok body := by
  rw [writtenPairs, addPairs_append, hbody] at h
  split at h
  · exact absurd h (by simp)
  · next parts₀ hfront =>
      have hnames : ∀ pair ∈ t.params.pairs ++ numberedPairs 1 t.headers.entries,
          pair.1 ≠ bodyName := by
        intro pair hpair
        rcases List.mem_append.1 hpair with hpair | hpair
        · exact hparams pair hpair
        · intro he
          exact absurd (he ▸ name_of_mem_numberedPairs hpair) (by decide)
      have hnone : parts₀.body = none := body_of_addPairs hnames hfront
      simp only [bodyPairs, addPairs] at h
      by_cases hnil : body.compact = []
      · rw [hnil, addPair_blank] at h
        rw [← Except.ok.inj h, hnone] at hparts
        exact absurd hparts (by simp)
      · rw [addPair_body hnil] at h
        cases hread : Json.parse body.compact with
        | error cause =>
            rw [hread] at h
            exact absurd h (by simp)
        | ok read =>
            rw [hread] at h
            rw [← Except.ok.inj h] at hparts
            rw [Option.some.inj hparts]

/-- A fragment that comes back is not empty and its end is not blank. -/
theorem fragment_of_orDefault {f : Text} (h : orDefault (Text.trimRight f) = f) :
    f ≠ [] ∧ ∀ c ∈ f.getLast?, Text.isBlank c = false := by
  unfold orDefault at h
  split at h
  · rw [← h]
    decide
  · next hne =>
      refine ⟨?_, Text.trimRight_eq_self_iff.1 h⟩
      rw [← h]
      exact hne

/-- Headers that are merged of sound pairs have a name without a colon and a value. -/
theorem QueryParts.Sound.merged {parts : QueryParts} (h : parts.Sound) :
    ∀ entry ∈ (Header.mergeAll parts.headers).entries,
      entry.1 ≠ [] ∧ ':' ∉ entry.1 ∧ entry.2 ≠ [] := by
  intro entry hentry
  have hget := Dictionary.get?_eq_some_iff.2 hentry
  obtain ⟨hname, hvalue⟩ := Header.ne_nil_of_get?_mergeAll hget
  obtain ⟨v, rest, hv⟩ := List.exists_cons_of_ne_nil (Header.of_get?_mergeAll hget).1
  have hmem := (Header.mem_valuesOf.1 (hv ▸ List.mem_cons_self : v ∈ _)).1
  exact ⟨hname, h.headers _ hmem, hvalue⟩

theorem Legible.of_decode_encode {t : Table} (hplain : IsRelative t.encode)
    (h : decode t.encode = .ok t) : t.Legible := by
  obtain ⟨hpath, hstart⟩ := path_of_decode hplain h
  rw [decode_encode_of_path hpath hstart hplain] at h
  obtain ⟨parts, hparts, ht⟩ := Outcome.exists_of_map_eq_ok h
  have hsound := addPairs_sound QueryParts.sound_empty hparts
  have hparams : parts.params = t.params := congrArg Table.params ht
  have hheaders : Header.mergeAll parts.headers = t.headers := congrArg Table.headers ht
  have hbody : parts.body = t.body := congrArg Table.body ht
  have hfragment : orDefault (Text.trimRight t.fragment) = t.fragment := congrArg Table.fragment ht
  have hordinary : ∀ pair ∈ t.params.pairs, IsOrdinary pair.1 ∧ pair.2 ≠ [] :=
    hparams ▸ hsound.params
  obtain ⟨hne, hend⟩ := fragment_of_orDefault hfragment
  refine ⟨hpath, hstart, fun pair hpair => ?_, hheaders ▸ hsound.merged, hne, hend,
    fun body hb => ?_⟩
  · obtain ⟨⟨hheader, hne⟩, hvalue⟩ := hordinary pair hpair
    exact ⟨hheader, hne, hvalue⟩
  · exact body_of_writtenPairs (fun pair hpair => (hordinary pair hpair).1.2)
      (Option.mem_def.1 hb) hparts (hbody.trans (Option.mem_def.1 hb))

/-- **Round trip of tables.**  A table whose parameters were added one by one and whose path and
fragment hold no `://` comes back from its text exactly when it is legible. -/
theorem decode_encode_eq_iff (t : Table) (pairs : List (Text × Text))
    (hparams : t.params = Params.ofPairs pairs)
    (hpath : IsRelative t.path) (hfragment : IsRelative t.fragment) :
    decode t.encode = .ok t ↔ t.Legible := by
  have hgrouped : t.params.Grouped := hparams ▸ Params.grouped_ofPairs pairs
  have hplain : IsRelative t.encode := isRelative_encode hpath hfragment
  exact ⟨Legible.of_decode_encode hplain, fun h => h.decode_encode hgrouped hplain⟩

/-- A table whose names and values hold the separators of every layer. -/
def separatorTable : Table where
  path := "/a b/%41".toList
  params := Params.ofPairs
    [("a&b".toList, "1=2".toList), ("p+q".toList, "#,%".toList), ("a&b".toList, "ü€".toList)]
  headers := (Dictionary.empty.insert "X,Y".toList " a:b&c ".toList).insert "z".toList "1".toList
  body := some (.object [("k".toList, .array [.integer (-3), .null, .string "&=%".toList])])
  fragment := "$..[?(@.p == 'a%20b')]#?".toList

theorem decode_encode_separatorTable :
    decode separatorTable.encode = .ok separatorTable :=
  (decode_encode_eq_iff separatorTable _ rfl (by decide) (by decide)).2 (by decide +kernel)

end Table

end Pushdown
