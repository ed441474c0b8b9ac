/-
**A pair that sticks.**

A query that ends in a question mark of its own is taken for one that has just been opened, and gets
no `&` in front of a further pair.  The pair then becomes a part of the last value, or of the last
name if this has no value: there is no pair more than before, or it has another name.  To a header
this does no harm beyond the header itself; a parameter is lost.

Main definitions:

* `Form.Sticks` — the pairs of a query before and after a pair stuck to it;
* `Table.lastName` — the name of the last pair of a query.

Main results:

* `Form.exists_sticks` — what a pair behind a question mark is read as;
* `Form.Sticks.param_ne`, `Form.Sticks.header_iff` — what this does to the parts of the query;
* `Table.decode_appendPair_iff` — **a pair is one more value exactly if it does not stick**.
-/

import Pushdown.Proofs.Codec.Lossy
import Pushdown.Proofs.Json.Ending
import Pushdown.Proofs.Plan.Incremental

set_option autoImplicit false

namespace Pushdown

/-! ### Pairs behind a question mark -/

namespace Form

/-- The pairs of a query that ends in a question mark, and those once a pair stuck to it that should
send a name and a value: it is a part of the last value, or of the last name. -/
inductive Sticks (sent : Text × Text) : List (Text × Text) → List (Text × Text) → Prop
  | toValue (done : List (Text × Text)) (name value : Text) {rest : Text} : rest ≠ [] →
      Sticks sent (done ++ [(name, value ++ ['?'])]) (done ++ [(name, value ++ '?' :: rest)])
  | toName (done : List (Text × Text)) (name : Text) :
      Sticks sent (done ++ [(name ++ ['?'], [])]) (done ++ [(name ++ '?' :: sent.1, sent.2)])

theorem readPairs_of_not_mem {piece : Text} (hpiece : '&' ∉ piece) (hne : piece ≠ []) :
    readPairs piece = [readPair piece] := by
  have hempty : piece.isEmpty = false := by simp [hne]
  simp [readPairs, Text.splitAll_of_not_mem hpiece, hempty]

/-- What is appended to a query belongs to its last piece. -/
theorem exists_last_piece (query : Text) :
    ∃ done piece, '&' ∉ piece ∧ ∀ s, '&' ∉ s → piece ++ s ≠ [] →
      readPairs (query ++ s) = done ++ [readPair (piece ++ s)] := by
  have hpiece {piece s : Text} (h : '&' ∉ piece) (hs : '&' ∉ s) : '&' ∉ piece ++ s :=
    fun hm => (List.mem_append.1 hm).elim h hs
  by_cases hamp : '&' ∈ query
  · obtain ⟨back, front, hreverse, hback⟩ :=
      List.eq_append_cons_of_mem (List.mem_reverse.2 hamp)
    have hquery : query = front.reverse ++ '&' :: back.reverse := by
      rw [← List.reverse_reverse query, hreverse]
      simp
    have hlast : '&' ∉ back.reverse := fun hm => hback (List.mem_reverse.1 hm)
    refine ⟨readPairs front.reverse, back.reverse, hlast, fun s hs hne => ?_⟩
    rw [hquery, List.append_assoc, List.cons_append, readPairs_append_cons,
      readPairs_of_not_mem (hpiece hlast hs) hne]
  · refine ⟨[], query, hamp, fun s hs hne => ?_⟩
    rw [readPairs_of_not_mem (hpiece hamp hs) hne, List.nil_append]

theorem readPair_of_split {name : Text} (hname : '=' ∉ name) (value : Text) :
    readPair (name ++ '=' :: value) = (decode name, decode value) := by
  simp [readPair, Text.splitFirst?_append hname]

/-- What is appended behind a question mark to a pair with a value belongs to the value. -/
theorem readPair_value_question {name : Text} (hname : '=' ∉ name) (value rest : Text) :
    readPair (name ++ '=' :: value ++ '?' :: rest) =
      (decode name, decode value ++ '?' :: decode rest) := by
  rw [List.append_assoc, List.cons_append, readPair_of_split hname,
    decode_append_cons Percent.separates_question (by decide)]

/-- What is appended behind a question mark to a name belongs to the name up to its first `=`. -/
theorem readPair_name_question {name key : Text} (hname : '=' ∉ name) (hkey : '=' ∉ key)
    (content : Text) :
    readPair (name ++ '?' :: (key ++ '=' :: content)) =
      (decode name ++ '?' :: decode key, decode content) := by
  have hlonger : '=' ∉ name ++ '?' :: key := Text.not_mem_append_cons hname (by decide) hkey
  have hcut : name ++ '?' :: (key ++ '=' :: content) = (name ++ '?' :: key) ++ '=' :: content := by
    simp
  rw [hcut, readPair_of_split hlonger, decode_append_cons Percent.separates_question (by decide)]

/-- **What a pair behind a question mark is read as.** -/
theorem exists_sticks (query : Text) {key content : Text} (hkey : '=' ∉ key)
    (hpair : '&' ∉ key ++ '=' :: content) :
    Sticks (decode key, decode content) (readPairs (query ++ ['?']))
      (readPairs (query ++ '?' :: (key ++ '=' :: content))) := by
  obtain ⟨done, piece, -, hlast⟩ := exists_last_piece query
  have hstuck : '&' ∉ '?' :: (key ++ '=' :: content) :=
    Text.not_mem_append_cons List.not_mem_nil (by decide) hpair
  rw [hlast ['?'] (by decide) (by simp), hlast _ hstuck (by simp)]
  cases hsplit : Text.splitFirst? '=' piece with
  | some halves =>
      obtain ⟨name, value⟩ := halves
      obtain ⟨rfl, hname⟩ := Text.eq_append_of_splitFirst? hsplit
      have hrest : decode (key ++ '=' :: content) ≠ [] := by
        rw [decode_append_cons ⟨by decide, by decide, by decide⟩ (by decide)]
        simp
      rw [readPair_value_question hname, readPair_value_question hname]
      exact Sticks.toValue done _ _ hrest
  | none =>
      have hname := Text.splitFirst?_eq_none_iff.1 hsplit
      have hbefore : readPair (piece ++ ['?']) = (decode piece ++ ['?'], []) := by
        have hnone : '=' ∉ piece ++ ['?'] := by simp [hname]
        rw [readPair, Text.splitFirst?_eq_none_iff.2 hnone,
          decode_append_cons Percent.separates_question (by decide)]
        rfl
      rw [hbefore, readPair_name_question hname hkey]
      exact Sticks.toName done _

/-- The pair of a binding behind a question mark. -/
theorem sticks_pair (query : Text) (target : Target) (value : Text) :
    Sticks (target.sent value) (readPairs (query ++ ['?']))
      (readPairs (query ++ '?' :: target.pair value)) := by
  have hamp (s : Text) : '&' ∉ Percent.encode s := Percent.not_mem_encode (by decide) s
  cases target with
  | param name =>
      have hkey : '=' ∉ Percent.encode name := Percent.not_mem_encode (by decide) name
      have hsticks := exists_sticks query hkey
        (Text.not_mem_append_cons (hamp name) (by decide) (hamp value))
      rwa [decode_percent, decode_percent] at hsticks
  | header name =>
      have hkey : '=' ∉ Table.headerPrefix := by decide
      have hcontent : '&' ∉ Percent.encode name ++ ':' :: Percent.encode value :=
        Text.not_mem_append_cons (hamp name) (by decide) (hamp value)
      have hsticks := exists_sticks query hkey
        (Text.not_mem_append_cons (by decide : '&' ∉ Table.headerPrefix) (by decide) hcontent)
      rw [decode_of_plain (by decide) (by decide), decode_percent_colon] at hsticks
      have hpair : (Target.header name).pair value =
          Table.headerPrefix ++ '=' :: (Percent.encode name ++ ':' :: Percent.encode value) := by
        simp [Target.pair, Table.headerPair]
      rwa [hpair]

end Form

/-! ### The parts of a query to which a pair stuck -/

namespace Table

/-- Names with a question mark inside are sorted by what stands in front of it. -/
theorem isOrdinary_append_question_iff (name rest : Text) :
    IsOrdinary (name ++ '?' :: rest) ↔ ¬ headerPrefix <+: name := by
  have hprefix : headerPrefix <+: name ++ '?' :: rest ↔ headerPrefix <+: name :=
    ⟨Text.prefix_append_cons (by decide), fun h => h.trans (List.prefix_append ..)⟩
  have hbody : name ++ '?' :: rest ≠ bodyName := by
    intro heq
    have hmem : '?' ∈ bodyName := heq ▸ List.mem_append_right _ List.mem_cons_self
    exact absurd hmem (by decide)
  rw [IsOrdinary, hprefix, and_iff_left hbody]

/-- A pair adds one parameter exactly if it has a value and an ordinary name. -/
theorem params_of_addPair {parts parts' : QueryParts} {name value : Text}
    (h : addPair parts name value = .ok parts') :
    parts'.params =
      if value ≠ [] ∧ IsOrdinary name then parts.params.append name value else parts.params := by
  cases adds_of_addPair h with
  | blank hvalue => rw [if_neg fun hcounts => hcounts.1 hvalue]
  | header _ hheader => rw [if_neg fun hcounts => hcounts.2.1 hheader]
  | body _ hbody => rw [if_neg fun hcounts => hcounts.2.2 hbody]
  | param hvalue hname => rw [if_pos ⟨hvalue, hname⟩]

/-- A header pair is read exactly if it has a colon, and is added to the headers only. -/
theorem addPair_header_eq_ok_iff {parts parts' : QueryParts} {name pair : Text}
    (hname : headerPrefix <+: name) (hpair : pair ≠ []) :
    addPair parts name pair = .ok parts' ↔
      ∃ header, Header.parse? pair = some header ∧
        parts' = { parts with headers := parts.headers ++ [header] } := by
  rw [addPair_header hname hpair]
  cases Header.parse? pair with
  | none => simp
  | some header => simp [eq_comm]

theorem exists_parse? {pair : Text} (h : ':' ∈ pair) :
    ∃ header, Header.parse? pair = some header := by
  obtain ⟨name, value, rfl, hname⟩ := List.eq_append_cons_of_mem h
  exact ⟨⟨name, value⟩, by rw [Header.parse?, Text.splitFirst?_append hname]; rfl⟩

theorem colon_mem_of_parse? {pair : Text} {header : Header}
    (h : Header.parse? pair = some header) : ':' ∈ pair := by
  obtain ⟨⟨name, value⟩, hsplit, -⟩ := Option.map_eq_some_iff.1 h
  rw [(Text.eq_append_of_splitFirst? hsplit).1]
  exact List.mem_append_right _ List.mem_cons_self

/-- No body ends in a question mark. -/
theorem addPair_body_question (parts : QueryParts) (value : Text) (parts' : QueryParts) :
    addPair parts bodyName (value ++ ['?']) ≠ .ok parts' := by
  rw [addPair_body (by simp)]
  cases hjson : Json.parse (value ++ ['?']) with
  | error cause => simp
  | ok body =>
      obtain ⟨c, hc, hending⟩ := Json.isEnding_of_parse hjson
      rw [List.getLast?_concat] at hc
      rw [← Option.some.inj hc] at hending
      exact absurd hending (by decide)

/-- A pair that is no parameter and whose value ends in a question mark is a header, and is one with
a longer value too. -/
theorem addPair_longer {parts parts₁ : QueryParts} {name value : Text} (rest : Text)
    (hname : ¬ IsOrdinary name) (h : addPair parts name (value ++ ['?']) = .ok parts₁) :
    ∃ parts₂, addPair parts name (value ++ '?' :: rest) = .ok parts₂ ∧
      parts₂.params = parts₁.params ∧ parts₂.body = parts₁.body := by
  have hheader : headerPrefix <+: name := by
    by_contra hnot
    have hbody : name = bodyName := by
      by_contra hne
      exact hname ⟨hnot, hne⟩
    exact addPair_body_question parts value parts₁ (hbody ▸ h)
  obtain ⟨header, hparse, rfl⟩ := (addPair_header_eq_ok_iff hheader (by simp)).1 h
  have hcolon : ':' ∈ value ++ '?' :: rest := by
    rcases List.mem_append.1 (colon_mem_of_parse? hparse) with hmem | hmem
    · exact List.mem_append_left _ hmem
    · exact absurd hmem (by decide)
  obtain ⟨longer, hlonger⟩ := exists_parse? hcolon
  exact ⟨_, (addPair_header_eq_ok_iff hheader (by simp)).2 ⟨longer, hlonger, rfl⟩, rfl, rfl⟩

/-- The last pair of a query is added to the parts of the others. -/
theorem addPairs_concat_eq_ok_iff {parts parts' : QueryParts} {done : List (Text × Text)}
    {name value : Text} :
    addPairs parts (done ++ [(name, value)]) = .ok parts' ↔
      ∃ middle, addPairs parts done = .ok middle ∧ addPair middle name value = .ok parts' := by
  rw [addPairs_append]
  cases addPairs parts done with
  | error e => simp
  | ok middle =>
      simp only [addPairs, Except.ok.injEq, exists_eq_left']
      cases addPair middle name value with
      | error e => simp
      | ok last => simp

/-- Where two queries differ in the last pair only, both pairs are added to the same parts. -/
theorem exists_addPair_of_concat {parts parts₁ parts₂ : QueryParts} {done : List (Text × Text)}
    {name₁ value₁ name₂ value₂ : Text}
    (h₁ : addPairs parts (done ++ [(name₁, value₁)]) = .ok parts₁)
    (h₂ : addPairs parts (done ++ [(name₂, value₂)]) = .ok parts₂) :
    ∃ middle, addPair middle name₁ value₁ = .ok parts₁ ∧
      addPair middle name₂ value₂ = .ok parts₂ := by
  obtain ⟨middle, hmiddle, hpair₁⟩ := addPairs_concat_eq_ok_iff.1 h₁
  obtain ⟨middle', hmiddle', hpair₂⟩ := addPairs_concat_eq_ok_iff.1 h₂
  obtain rfl : middle = middle' := Except.ok.inj (hmiddle.symm.trans hmiddle')
  exact ⟨middle, hpair₁, hpair₂⟩

end Table

namespace Form

open Table (IsOrdinary QueryParts addPair addPairs headerPrefix bodyName)

variable {before after : List (Text × Text)} {start parts : QueryParts}

/-- **A parameter that sticks is lost.** -/
theorem Sticks.param_ne {name value : Text} (h : Sticks (name, value) before after)
    (hvalue : value ≠ []) (hbefore : addPairs start before = .ok parts) :
    ∀ parts', addPairs start after = .ok parts' →
      parts'.params ≠ parts.params.append name value := by
  intro parts' hafter hparams
  have hlength := congrArg (fun p => p.pairs.length) hparams
  simp only [Params.length_pairs_append] at hlength
  cases h with
  | @toValue done last old rest hrest =>
      -- Both last pairs have a value, so there are as many parameters as before.
      obtain ⟨middle, hold, hnew⟩ := Table.exists_addPair_of_concat hbefore hafter
      have hparts := Table.params_of_addPair hold
      have hparts' := Table.params_of_addPair hnew
      by_cases hordinary : IsOrdinary last
      · rw [if_pos ⟨by simp, hordinary⟩] at hparts hparts'
        rw [hparts, hparts', Params.length_pairs_append, Params.length_pairs_append] at hlength
        omega
      · rw [if_neg fun hboth => hordinary hboth.2] at hparts hparts'
        rw [hparts, hparts'] at hlength
        omega
  | toName done last =>
      obtain ⟨middle, hold, hnew⟩ := Table.exists_addPair_of_concat hbefore hafter
      obtain rfl : middle = parts := Except.ok.inj hold
      have hparts' := Table.params_of_addPair hnew
      by_cases hordinary : IsOrdinary (last ++ '?' :: name)
      · -- There is one parameter more, but its name is longer than that of the pair.
        rw [if_pos ⟨hvalue, hordinary⟩, hparams] at hparts'
        have hname := congrArg List.length (Params.append_inj hparts').1
        simp only [List.length_append, List.length_cons] at hname
        omega
      · rw [if_neg fun hboth => hordinary hboth.2] at hparts'
        rw [hparts'] at hlength
        omega

/-- The name of the last pair, if there is one. -/
def lastName (pairs : List (Text × Text)) : Text := (pairs.getLast?.map Prod.fst).getD []

theorem lastName_concat (done : List (Text × Text)) (name value : Text) :
    lastName (done ++ [(name, value)]) = name := by
  simp [lastName]

/-- **A header that sticks harms the parameters only.**  Parameters and body stay as they were
exactly if the last pair was no parameter. -/
theorem Sticks.header_iff {name value : Text}
    (h : Sticks (headerPrefix, name ++ ':' :: value) before after)
    (hbefore : addPairs start before = .ok parts) :
    (∃ parts', addPairs start after = .ok parts' ∧ parts'.params = parts.params ∧
        parts'.body = parts.body) ↔ ¬ IsOrdinary (lastName before) := by
  cases h with
  | @toValue done last old rest hrest =>
      rw [lastName_concat]
      constructor
      · rintro ⟨parts', hafter, hparams, -⟩ hordinary
        obtain ⟨middle, hold, hnew⟩ := Table.exists_addPair_of_concat hbefore hafter
        rw [Table.params_of_addPair hold, Table.params_of_addPair hnew,
          if_pos ⟨by simp, hordinary⟩, if_pos ⟨by simp, hordinary⟩] at hparams
        -- The last value has grown.
        have hvalue := (Params.append_inj hparams).2
        rw [List.append_cancel_left_eq, List.cons.injEq] at hvalue
        exact hrest hvalue.2
      · intro hordinary
        obtain ⟨middle, hmiddle, hold⟩ := Table.addPairs_concat_eq_ok_iff.1 hbefore
        obtain ⟨parts', hnew, hparams, hbody⟩ := Table.addPair_longer rest hordinary hold
        exact ⟨parts', Table.addPairs_concat_eq_ok_iff.2 ⟨middle, hmiddle, hnew⟩, hparams, hbody⟩
  | toName done last =>
      have hordinary := Table.isOrdinary_append_question_iff last headerPrefix
      rw [lastName_concat, Table.isOrdinary_append_question_iff, Decidable.not_not]
      constructor
      · rintro ⟨parts', hafter, hparams, -⟩
        obtain ⟨middle, hold, hnew⟩ := Table.exists_addPair_of_concat hbefore hafter
        obtain rfl : middle = parts := Except.ok.inj hold
        by_contra hheader
        -- The pair has a name that is no header's, so there is one parameter more.
        have hparams' := Table.params_of_addPair hnew
        rw [if_pos ⟨by simp, hordinary.2 hheader⟩, hparams] at hparams'
        have hlength := congrArg (fun p => p.pairs.length) hparams'
        simp only [Params.length_pairs_append] at hlength
        omega
      · intro hheader
        obtain ⟨middle, hmiddle, hold⟩ := Table.addPairs_concat_eq_ok_iff.1 hbefore
        obtain rfl : middle = parts := Except.ok.inj hold
        have hlonger : headerPrefix <+: last ++ '?' :: headerPrefix :=
          hheader.trans (List.prefix_append ..)
        obtain ⟨header, hparse⟩ := Table.exists_parse?
          (List.mem_append_right name List.mem_cons_self : ':' ∈ name ++ ':' :: value)
        have hnew : addPair middle (last ++ '?' :: headerPrefix) (name ++ ':' :: value) =
            .ok { middle with headers := middle.headers ++ [header] } :=
          (Table.addPair_header_eq_ok_iff hlonger (by simp)).2 ⟨header, hparse, rfl⟩
        exact ⟨_, Table.addPairs_concat_eq_ok_iff.2 ⟨middle, hmiddle, hnew⟩, rfl, rfl⟩

end Form

namespace Table

/-! ### A table to which a pair sticks -/

/-- A question mark at the end that is not the first one ends the query. -/
theorem exists_query_of_last {front q : Text} (hfront : '?' ∉ front)
    (hq : q = [] ∨ ∃ rest, q = '?' :: rest) (hlast : (front ++ q).getLast? = some '?')
    (hinner : '?' ∈ (front ++ q).dropLast) : ∃ query, q = '?' :: (query ++ ['?']) := by
  rcases hq with rfl | ⟨rest, rfl⟩
  · rw [List.append_nil] at hinner
    exact absurd (List.dropLast_subset _ hinner) hfront
  · rcases List.eq_nil_or_concat rest with rfl | ⟨query, c, rfl⟩
    · rw [List.dropLast_concat] at hinner
      exact absurd hinner hfront
    · rw [List.concat_eq_append, ← List.cons_append, ← List.append_assoc,
        List.getLast?_concat] at hlast
      rw [List.concat_eq_append, Option.some.inj hlast]
      exact ⟨query, rfl⟩

/-- A text stays relative when a pair sticks to its query. -/
theorem isRelative_stuck {front query tail pair : Text}
    (htail : tail = [] ∨ ∃ rest, tail = '#' :: rest) (hpair : ∀ c ∈ pair, isQueryChar c = true)
    (h : IsRelative (front ++ ('?' :: (query ++ ['?']) ++ tail))) :
    IsRelative (front ++ ('?' :: (query ++ '?' :: pair) ++ tail)) := by
  intro hinfix
  refine h ?_
  have hnil : ¬ "://".toList <:+: [] := by decide
  rw [← List.append_assoc, infix_tail_iff htail, infix_mark_iff (by decide),
    infix_mark_iff (by decide), or_iff_left (not_infix_of_isQueryChar hpair)] at hinfix
  rw [← List.append_assoc, infix_tail_iff htail, infix_mark_iff (by decide),
    infix_mark_iff (by decide), or_iff_left hnil]
  exact hinfix

/-- A text to which a pair sticks has a query that ends in a question mark, and the pair goes right
behind it. -/
theorem split_of_glues {uri : Text} (hrelative : IsRelative uri) (h : Glues uri) :
    ∃ path query fragment, split uri = .ok (path, query ++ ['?'], fragment) ∧
      ∀ pair, (∀ c ∈ pair, isQueryChar c = true) →
        split (appendPair uri pair) = .ok (path, query ++ '?' :: pair, fragment) := by
  obtain ⟨a, q, tail, rfl, ha, hq, hhash, htail⟩ := exists_parts uri
  have hmark : '?' ∉ a := fun hm => (ha '?' hm).1 rfl
  have hfront := not_mem_front ha hhash
  have hbefore : Text.before '#' (a ++ (q ++ tail)) = a ++ q := by
    rw [← List.append_assoc]
    exact before_append hfront htail
  obtain ⟨hlast, hinner⟩ := h
  rw [hbefore] at hlast hinner
  obtain ⟨query, rfl⟩ := exists_query_of_last hmark hq hlast hinner
  refine ⟨a, query, tail.tail, split_relative_parts ha hq hhash htail hrelative,
    fun pair hpair => ?_⟩
  have hsep : pairSeparator (a ++ '?' :: (query ++ ['?'])) = [] := by
    rw [pairSeparator_of_last (List.mem_append_right _ List.mem_cons_self) hlast]
    rfl
  have happend : appendPair (a ++ ('?' :: (query ++ ['?']) ++ tail)) pair =
      a ++ ('?' :: (query ++ '?' :: pair) ++ tail) := by
    rw [← List.append_assoc, appendPair_eq hfront htail, hsep]
    simp
  have hpairHash : '#' ∉ '?' :: (query ++ '?' :: pair) := by
    have hqueryHash : '#' ∉ '?' :: query := fun hm => hhash (List.mem_append_left ['?'] hm)
    have hpair' : '#' ∉ pair := fun hm => absurd (hpair '#' hm) (by decide)
    exact Text.not_mem_append_cons hqueryHash (by decide) hpair'
  rw [happend]
  exact split_relative_parts ha (Or.inr ⟨_, rfl⟩) hpairHash htail
    (isRelative_stuck htail hpair hrelative)

/-- What a text is read as once a pair stuck to it. -/
theorem exists_sticks_of_glues {uri : Text} (hrelative : IsRelative uri)
    (htrim : Text.trim uri = uri) (hglues : Glues uri) {r : Scan} (hscan : scan uri = .ok r)
    (target : Target) (value : Text) :
    ∃ after, Form.Sticks (target.sent value) (Form.readPairs (queryOf uri)) after ∧
      addPairs ⟨Params.empty, [], none⟩ (Form.readPairs (queryOf uri)) = .ok r.parts ∧
      ∀ r', scan (appendPair uri (target.pair value)) = .ok r' ↔
        addPairs ⟨Params.empty, [], none⟩ after = .ok r'.parts ∧ r'.path = r.path ∧
          r'.fragment = r.fragment := by
  have hne := target.pair_ne_nil value
  have hchars := target.isQueryChar_pair value
  obtain ⟨path, query, fragment, hsplit, happend⟩ := split_of_glues hrelative hglues
  obtain ⟨query', fragment', hcut, hparts, hfragment⟩ := scan_eq_ok_iff.1 hscan
  rw [htrim] at hcut
  obtain ⟨hpath, hrest⟩ := Prod.mk.inj (Except.ok.inj (hsplit.symm.trans hcut))
  obtain ⟨rfl, rfl⟩ := Prod.mk.inj hrest
  have hquery : queryOf uri = query ++ ['?'] := by
    rw [split_eq_parts hrelative] at hsplit
    exact (Prod.mk.inj (Prod.mk.inj (Except.ok.inj hsplit)).2).1
  rw [hquery]
  refine ⟨_, Form.sticks_pair query target value, hparts, fun r' => ?_⟩
  rw [scan_eq_ok_iff, trim_appendPair htrim hne hchars, happend _ hchars]
  constructor
  · rintro ⟨query', fragment', hcut', hparts', hfragment'⟩
    obtain ⟨hpath', hrest'⟩ := Prod.mk.inj (Except.ok.inj hcut')
    obtain ⟨rfl, rfl⟩ := Prod.mk.inj hrest'
    exact ⟨hparts', hpath'.symm.trans hpath, Except.ok.inj (hfragment'.symm.trans hfragment)⟩
  · rintro ⟨hparts', hpath', hfragment'⟩
    refine ⟨_, _, ?_, hparts', hfragment' ▸ hfragment⟩
    rw [hpath', hpath]

/-- The name of the last pair of a query, if it has one. -/
def lastName (uri : Text) : Text := Form.lastName (Form.readPairs (queryOf uri))

section

variable {uri value : Text} {r : Scan}

/-- A pair that does not stick is read behind the others. -/
theorem scan_appendPair_of_fits (hrelative : IsRelative uri) (htrim : Text.trim uri = uri)
    (hglues : ¬ Glues uri) (hscan : scan uri = .ok r) {target : Target}
    (hfits : target.Fits value) :
    scan (appendPair uri (target.pair value)) =
      .ok ⟨r.path, ⟨r.parts.params.appendPairs (Plan.paramsOf [(target, value)]),
        r.parts.headers ++ Plan.headersOf [(target, value)], r.parts.body⟩, r.fragment⟩ := by
  have hrow : ∀ a ∈ [(target, value)], a.1.Fits a.2 :=
    fun a ha => List.mem_singleton.1 ha ▸ hfits
  exact Plan.scan_extend_of_fits hrow ⟨hglues, fun habsolute => absurd hrelative habsolute⟩ htrim
    hscan

/-- A parameter is one more exactly if it does not stick. -/
theorem decode_appendPair_param_iff {t : Table} (hrelative : IsRelative uri)
    (htrim : Text.trim uri = uri) (hdecode : decode uri = .ok t) {name : Text}
    (hname : IsOrdinary name) (hvalue : value ≠ []) :
    decode (appendPair uri (paramPair name value)) = .ok (t.withParam name value) ↔
      ¬ Glues uri := by
  obtain ⟨r, hscan, rfl⟩ := decode_eq_ok_iff.1 hdecode
  constructor
  · intro hafter hglues
    obtain ⟨r', hscan', htable⟩ := decode_eq_ok_iff.1 hafter
    obtain ⟨after, hsticks, hparts, hread⟩ :=
      exists_sticks_of_glues hrelative htrim hglues hscan (.param name) value
    have hparts' := ((hread r').1 hscan').1
    exact hsticks.param_ne hvalue hparts _ hparts' (congrArg Table.params htable)
  · intro hglues
    have hfits : (Target.param name).Fits value := ⟨hname, hvalue⟩
    have hscan' := scan_appendPair_of_fits hrelative htrim hglues hscan hfits
    refine decode_eq_ok_iff.2 ⟨_, hscan', ?_⟩
    simp [Scan.table, withParam, Plan.paramsOf, Plan.headersOf, Params.appendPairs]

/-- A header leaves all other parts as they are exactly if it does not stick to a parameter. -/
theorem decode_appendPair_header_iff {t : Table} (hrelative : IsRelative uri)
    (htrim : Text.trim uri = uri) (hdecode : decode uri = .ok t) {name : Text}
    (hname : name ≠ [] ∧ ':' ∉ name) (hvalue : value ≠ []) :
    (∃ t', decode (appendPair uri (headerPair name value)) = .ok t' ∧ t'.path = t.path ∧
        t'.params = t.params ∧ t'.body = t.body ∧ t'.fragment = t.fragment) ↔
      ¬ (Glues uri ∧ IsOrdinary (lastName uri)) := by
  obtain ⟨r, hscan, rfl⟩ := decode_eq_ok_iff.1 hdecode
  by_cases hglues : Glues uri
  · obtain ⟨after, hsticks, hparts, hread⟩ :=
      exists_sticks_of_glues hrelative htrim hglues hscan (.header name) value
    rw [and_iff_right hglues, lastName, ← hsticks.header_iff hparts]
    constructor
    · rintro ⟨t', hafter, -, hparams, hbody, -⟩
      obtain ⟨r', hscan', rfl⟩ := decode_eq_ok_iff.1 hafter
      exact ⟨r'.parts, ((hread r').1 hscan').1, hparams, hbody⟩
    · rintro ⟨parts', hparts', hparams, hbody⟩
      have hscan' := (hread ⟨r.path, parts', r.fragment⟩).2 ⟨hparts', rfl, rfl⟩
      exact ⟨_, decode_eq_ok_iff.2 ⟨_, hscan', rfl⟩, rfl, hparams, hbody, rfl⟩
  · have hfits : (Target.header name).Fits value := ⟨hname, hvalue⟩
    have hscan' := scan_appendPair_of_fits hrelative htrim hglues hscan hfits
    exact iff_of_true ⟨_, decode_eq_ok_iff.2 ⟨_, hscan', rfl⟩, rfl, rfl, rfl, rfl⟩
      fun hboth => hglues hboth.1

end

/-- **A pair is one more part exactly if it does not stick.**  A parameter that is appended to a
relative text is read behind the others, and nothing else changes, exactly if the text in front of
the fragment does not end in a question mark that is not its first one.  A header that is appended
leaves all parts but the headers as they are exactly if it does not stick to a parameter. -/
theorem decode_appendPair_iff {uri value : Text} {t : Table} (hrelative : IsRelative uri)
    (htrim : Text.trim uri = uri) (hdecode : decode uri = .ok t) (hvalue : value ≠ []) :
    (∀ name, IsOrdinary name →
      (decode (appendPair uri (paramPair name value)) = .ok (t.withParam name value) ↔
        ¬ Glues uri)) ∧
    ∀ name, name ≠ [] ∧ ':' ∉ name →
      ((∃ t', decode (appendPair uri (headerPair name value)) = .ok t' ∧ t'.path = t.path ∧
          t'.params = t.params ∧ t'.body = t.body ∧ t'.fragment = t.fragment) ↔
        ¬ (Glues uri ∧ IsOrdinary (lastName uri))) :=
  ⟨fun _ hname => decode_appendPair_param_iff hrelative htrim hdecode hname hvalue,
    fun _ hname => decode_appendPair_header_iff hrelative htrim hdecode hname hvalue⟩

/-- A table whose one value ends in a question mark. -/
def questionTable : Table :=
  ⟨"/search".toList, Params.empty.append "q".toList "rust?".toList, Dictionary.empty, none,
    "rows?".toList⟩

set_option maxRecDepth 100000 in
theorem decode_appendPair_questionTable :
    let uri := "/search?q=rust?&lang#rows?".toList
    decode uri = .ok questionTable ∧
      decode (appendPair uri (paramPair "page".toList "2".toList)) =
        .ok (questionTable.withParam "page".toList "2".toList) ∧
      ∃ t', decode (appendPair uri (headerPair "k".toList "2".toList)) = .ok t' ∧
        t'.path = questionTable.path ∧ t'.params = questionTable.params ∧
        t'.body = questionTable.body ∧ t'.fragment = questionTable.fragment := by
  intro uri
  have hdecode : decode uri = .ok questionTable := by decide +kernel
  have hvalue : "2".toList ≠ [] := by decide
  have hglues : ¬ Glues uri := by decide
  obtain ⟨hparam, hheader⟩ := decode_appendPair_iff (by decide) (by decide) hdecode hvalue
  exact ⟨hdecode, (hparam "page".toList (by decide)).2 hglues,
    (hheader "k".toList (by decide)).2 fun hboth => hglues hboth.1⟩

set_option maxRecDepth 100000 in
/-- Without the pair behind it the same value swallows the parameter. -/
theorem decode_appendPair_glued :
    let uri := "/search?q=rust?#rows?".toList
    IsRelative uri ∧ Text.trim uri = uri ∧ decode uri = .ok questionTable ∧
      IsOrdinary "page".toList ∧
      decode (appendPair uri (paramPair "page".toList "2".toList)) =
        .ok { questionTable with
          params := Params.empty.append "q".toList "rust?page=2".toList } ∧
      decode (appendPair uri (paramPair "page".toList "2".toList)) ≠
        .ok (questionTable.withParam "page".toList "2".toList) := by
  decide +kernel

end Table

end Pushdown
