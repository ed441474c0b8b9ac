/-
**Statements one after the other on one table.**

A table that grows by the bindings of a statement is the table that the next statement is planned
for.  However many statements are run this way, and whatever they say, they can only write at the
end of the query: an encoded name or value has none of the characters that end a path, a query or a
pair, and a statement that is refused or has nothing to move leaves the table as it is.

Main definitions:

* `Table.IsPair` — a text that can stand between two `&`;
* `Plan.addition` — a row of pairs with the separator in front of it;
* `Plan.run` — the table after a sequence of statements.

Main results:

* `Plan.extend_append` — where a row of pairs goes;
* `Plan.orInput_grows` — what one statement does to the table;
* `Plan.run_grows` — **statements only write at the end of the query**.
-/

import Pushdown.Proofs.Plan.Moves
import Pushdown.Proofs.Table.Growth

set_option autoImplicit false

namespace Pushdown

namespace Table

/-! ### Pairs -/

/-- A text that can stand between two `&` of a query. -/
structure IsPair (pair : Text) : Prop where
  ne_nil : pair ≠ []
  plain : ∀ c ∈ pair, c ≠ '&' ∧ c ≠ '?' ∧ c ≠ '#'

/-- The first pair opens the query. -/
theorem pairSeparator_of_not_mem {front : Text} (hmark : '?' ∉ front) :
    pairSeparator front = ['?'] := by
  simp [pairSeparator, hmark]

/-- With its separator, a front has a query. -/
theorem mark_mem_pairSeparator (front : Text) : '?' ∈ front ++ pairSeparator front := by
  by_cases hmark : '?' ∈ front
  · exact List.mem_append_left _ hmark
  · rw [pairSeparator_of_not_mem hmark]
    exact List.mem_append_right _ List.mem_cons_self

theorem hash_not_mem_pairSeparator (front : Text) : '#' ∉ pairSeparator front := by
  unfold pairSeparator
  split
  · decide
  · split <;> decide

/-- Behind a pair the separator is `&`. -/
theorem pairSeparator_of_pair {front pair : Text} (hmark : '?' ∈ front) (hpair : IsPair pair) :
    pairSeparator (front ++ pair) = ['&'] := by
  obtain ⟨rest, c, rfl⟩ := (List.eq_nil_or_concat pair).resolve_left hpair.ne_nil
  obtain ⟨hamp, hquestion, -⟩ := hpair.plain c (by simp)
  have hlast : (front ++ rest.concat c).getLast? = some c := by
    rw [List.concat_eq_append, ← List.append_assoc, List.getLast?_concat]
  rw [pairSeparator_of_last (List.mem_append_left _ hmark) hlast, if_neg]
  rintro (h | h)
  · exact hamp h
  · exact hquestion h

end Table

theorem Target.isPair_pair (target : Target) (value : Text) : Table.IsPair (target.pair value) := by
  refine ⟨target.pair_ne_nil value, fun c hc => ?_⟩
  have hwritten (s : Text) (hs : c ∈ Percent.encode s) : c ≠ '&' ∧ c ≠ '?' ∧ c ≠ '#' := by
    refine ⟨?_, ?_, ?_⟩
    all_goals
      rintro rfl
      exact Percent.not_mem_encode (by decide) s hs
  have hprefix : ∀ d ∈ Table.headerPrefix, d ≠ '&' ∧ d ≠ '?' ∧ d ≠ '#' := by decide
  cases target with
  | param name =>
      rcases List.mem_append.1 hc with hc | hc
      · exact hwritten name hc
      · rcases List.mem_cons.1 hc with rfl | hc
        · decide
        · exact hwritten value hc
  | header name =>
      rcases List.mem_append.1 hc with hc | hc
      · rcases List.mem_append.1 hc with hc | hc
        · exact hprefix c hc
        · rcases List.mem_cons.1 hc with rfl | hc
          · decide
          · exact hwritten name hc
      · rcases List.mem_cons.1 hc with rfl | hc
        · decide
        · exact hwritten value hc

namespace Plan

theorem isPair_of_mem_pairs {bindings : List Binding} :
    ∀ pair ∈ pairs bindings, Table.IsPair pair := by
  intro pair hpair
  obtain ⟨b, -, v, -, rfl⟩ := mem_pairs.1 hpair
  exact b.target.isPair_pair v

/-! ### Rows of pairs -/

/-- What a row of pairs adds behind a front: one separator and the pairs, joined. -/
def addition (front : Text) (row : List Text) : Text :=
  if row = [] then [] else Table.pairSeparator front ++ Text.joinWith ['&'] row

/-- The first pair of a row brings the separator, and every further one an `&`. -/
theorem addition_cons (front : Text) {pair : Text} (hpair : Table.IsPair pair)
    (row : List Text) :
    front ++ addition front (pair :: row) =
      front ++ Table.pairSeparator front ++ pair ++
        addition (front ++ Table.pairSeparator front ++ pair) row := by
  have hsep := Table.pairSeparator_of_pair (Table.mark_mem_pairSeparator front) hpair
  rw [addition, addition, if_neg (List.cons_ne_nil _ _), hsep]
  by_cases hrow : row = []
  · subst hrow
    simp [Text.joinWith]
  · rw [if_neg hrow, Text.joinWith_cons _ _ hrow]
    simp

/-- Where a row of pairs goes: behind the front, in front of the fragment. -/
theorem extend_append {front tail : Text} (hfront : '#' ∉ front) (htail : Url.IsTail tail)
    {row : List Text} (hrow : ∀ pair ∈ row, Table.IsPair pair) :
    extend (front ++ tail) row = front ++ addition front row ++ tail := by
  induction row generalizing front with
  | nil => simp [extend, addition]
  | cons pair row ih =>
      have hpair := hrow pair List.mem_cons_self
      have hhash : '#' ∉ front ++ Table.pairSeparator front ++ pair := by
        intro hm
        rcases List.mem_append.1 hm with hm | hm
        · rcases List.mem_append.1 hm with hm | hm
          · exact hfront hm
          · exact Table.hash_not_mem_pairSeparator front hm
        · exact (hpair.plain '#' hm).2.2 rfl
      have hstep : extend (front ++ tail) (pair :: row) =
          extend (front ++ Table.pairSeparator front ++ pair ++ tail) row := by
        rw [extend, List.foldl_cons, Table.appendPair_eq hfront htail]
        rfl
      rw [hstep, ih hhash fun x hx => hrow x (List.mem_cons_of_mem _ hx),
        addition_cons front hpair]

theorem hash_not_mem_addition (front : Text) {row : List Text}
    (hrow : ∀ pair ∈ row, Table.IsPair pair) : '#' ∉ addition front row := by
  unfold addition
  split
  · exact List.not_mem_nil
  · intro hm
    rcases List.mem_append.1 hm with hm | hm
    · exact Table.hash_not_mem_pairSeparator front hm
    · rcases Text.mem_joinWith hm with hm | ⟨pair, hpair, hm⟩
      · exact absurd hm (by decide)
      · exact ((hrow pair hpair).plain '#' hm).2.2 rfl

/-- With the addition, the query is longer at its end, and the path is the same. -/
theorem query_addition {a q : Text} (ha : Url.Plain a) (hq : Url.IsQuery q) (row : List Text) :
    ∃ q', a ++ q ++ addition (a ++ q) row = a ++ q' ∧ Url.IsQuery q' ∧ q.tail <+: q'.tail := by
  by_cases hrow : row = []
  · exact ⟨q, by simp [addition, hrow], hq, List.prefix_refl _⟩
  rw [addition, if_neg hrow]
  rcases hq with rfl | ⟨query, rfl⟩
  · have hmark : '?' ∉ a := fun hm => (ha '?' hm).1 rfl
    rw [List.append_nil, Table.pairSeparator_of_not_mem hmark]
    exact ⟨'?' :: Text.joinWith ['&'] row, rfl, Or.inr ⟨_, rfl⟩, List.nil_prefix⟩
  · exact ⟨'?' :: (query ++ (Table.pairSeparator (a ++ '?' :: query) ++ Text.joinWith ['&'] row)),
      by simp, Or.inr ⟨_, rfl⟩, List.prefix_append _ _⟩

/-! ### One statement -/

/-- A later table has the path and the fragment of an earlier one, and its query starts with that of
the earlier one. -/
structure Grows (earlier later : Text) : Prop where
  path : Table.pathOf later = Table.pathOf earlier
  fragment : Table.fragmentOf? later = Table.fragmentOf? earlier
  query : Table.queryOf earlier <+: Table.queryOf later

theorem Grows.refl (uri : Text) : Grows uri uri := ⟨rfl, rfl, List.prefix_refl _⟩

theorem Grows.trans {a b c : Text} (hab : Grows a b) (hbc : Grows b c) : Grows a c :=
  ⟨hbc.path.trans hab.path, hbc.fragment.trans hab.fragment, hab.query.trans hbc.query⟩

/-- A row of pairs goes to the end of the query and nowhere else. -/
theorem grows_extend (uri : Text) {row : List Text} (hrow : ∀ pair ∈ row, Table.IsPair pair) :
    Grows uri (extend uri row) ∧
      Text.before '#' (extend uri row) =
        Text.before '#' uri ++ addition (Text.before '#' uri) row := by
  obtain ⟨a, q, tail, rfl, ha, hq, hhash, htail⟩ := Table.exists_parts uri
  have hfront := Table.not_mem_front ha hhash
  obtain ⟨q', hq'_eq, hq', hprefix⟩ := query_addition ha hq row
  have hlonger : '#' ∉ a ++ q ++ addition (a ++ q) row := by
    intro hm
    rcases List.mem_append.1 hm with hm | hm
    · exact hfront hm
    · exact hash_not_mem_addition _ hrow hm
  have hhash' : '#' ∉ q' := fun hm => hlonger (hq'_eq ▸ List.mem_append_right _ hm)
  have hextend : extend (a ++ (q ++ tail)) row = a ++ q ++ addition (a ++ q) row ++ tail := by
    rw [← List.append_assoc, extend_append hfront htail hrow]
  refine ⟨⟨?_, ?_, ?_⟩, ?_⟩
  · rw [hextend, hq'_eq, List.append_assoc, Table.pathOf_parts ha hq' htail,
      Table.pathOf_parts ha hq htail]
  · rw [hextend, ← List.append_assoc, Table.fragmentOf?_append hlonger htail,
      Table.fragmentOf?_append hfront htail]
  · rw [hextend, hq'_eq, List.append_assoc, Table.queryOf_parts ha hq' hhash' htail,
      Table.queryOf_parts ha hq hhash htail]
    exact hprefix
  · rw [hextend, Table.before_append hlonger htail, ← List.append_assoc,
      Table.before_append hfront htail]

/-- What one statement does to a table without blanks at its ends: the bindings that it has go to
the end of the query in the order of the visit, and nothing else changes. -/
theorem orInput_grows {uri : Text} (huri : Text.trim uri = uri) (c : Config) (sql : Text) :
    Text.trim (orInput c uri sql).1 = (orInput c uri sql).1 ∧
      Grows uri (orInput c uri sql).1 ∧
      ∀ p, make c uri sql = .ok p → p.bindings ≠ [] →
        (orInput c uri sql).1 = p.uri ∧
          (∃ statements, ReadsAs c sql statements ∧
            p.bindings = (statements.flatMap Sql.Statement.visited).filterMap
              (Sql.Expr.binding? c.whitelist)) ∧
          Text.before '#' p.uri =
            Text.before '#' uri ++ addition (Text.before '#' uri) (pairs p.bindings) := by
  have hmoves : ∀ p, make c uri sql = .ok p → p.bindings ≠ [] →
      (orInput c uri sql).1 = p.uri ∧ p.uri = extend uri (pairs p.bindings) ∧
        ∃ statements, Moves c uri sql statements p := by
    intro p hp hne
    obtain ⟨statements, hmoves⟩ := exists_moves hp hne
    refine ⟨by rw [orInput, hp], ?_, statements, hmoves⟩
    rw [hmoves.uri_eq, huri]
  refine ⟨?_, ?_, fun p hp hne => ?_⟩
  · by_cases hfinds : Finds c uri sql
    · obtain ⟨p, hp, hne⟩ := hfinds
      obtain ⟨hinput, hextend, -⟩ := hmoves p hp hne
      rw [hinput, hextend]
      exact trim_extend huri p.bindings
    · rw [orInput_of_not_finds hfinds]
      exact huri
  · by_cases hfinds : Finds c uri sql
    · obtain ⟨p, hp, hne⟩ := hfinds
      obtain ⟨hinput, hextend, -⟩ := hmoves p hp hne
      rw [hinput, hextend]
      exact (grows_extend uri isPair_of_mem_pairs).1
    · rw [orInput_of_not_finds hfinds]
      exact Grows.refl uri
  · obtain ⟨hinput, hextend, statements, hmoves⟩ := hmoves p hp hne
    refine ⟨hinput, ⟨statements, hmoves.reads, ?_⟩, ?_⟩
    · rw [hmoves.bindings, Sql.extractAll_bindings]
    · rw [hextend]
      exact (grows_extend uri isPair_of_mem_pairs).2

/-! ### A sequence of statements -/

/-- The table after a sequence of statements, each planned for the table that the one before it
left. -/
def run (c : Config) (uri : Text) (statements : List Text) : Text :=
  statements.foldl (fun uri sql => (orInput c uri sql).1) uri

theorem run_concat (c : Config) (uri : Text) (done : List Text) (sql : Text) :
    run c uri (done ++ [sql]) = (orInput c (run c uri done) sql).1 := List.foldl_concat ..

/-- A run keeps a table without blanks at its ends, and the table only grows. -/
theorem grows_run (c : Config) {uri : Text} (huri : Text.trim uri = uri) (statements : List Text) :
    Text.trim (run c uri statements) = run c uri statements ∧
      Grows uri (run c uri statements) := by
  induction statements generalizing uri with
  | nil => exact ⟨huri, Grows.refl uri⟩
  | cons sql statements ih =>
      obtain ⟨htrim, hstep, -⟩ := orInput_grows huri c sql
      obtain ⟨htrim', hrest⟩ := ih htrim
      exact ⟨htrim', hstep.trans hrest⟩

/-- **Statements only write at the end of the query.**  Run any statements on a table without blanks
at its ends, one after the other.  After each of them path and fragment are those of the table in
the beginning, and the query starts with the query before the statement.  A statement that has
bindings adds the separator and the pairs of all their values, joined by `&`, in the order in which
the bindings and their values are written; one without values adds nothing. -/
theorem run_grows (c : Config) {uri : Text} (huri : Text.trim uri = uri) (done : List Text)
    (sql : Text) :
    let before := run c uri done
    let after := run c uri (done ++ [sql])
    Table.pathOf after = Table.pathOf uri ∧
      Table.fragmentOf? after = Table.fragmentOf? uri ∧
      Table.queryOf before <+: Table.queryOf after ∧
      ∀ p, make c before sql = .ok p → p.bindings ≠ [] →
        after = p.uri ∧
          (∃ statements, ReadsAs c sql statements ∧
            p.bindings = (statements.flatMap Sql.Statement.visited).filterMap
              (Sql.Expr.binding? c.whitelist)) ∧
          Text.before '#' after = Text.before '#' before ++
            if pairs p.bindings = [] then []
            else Table.pairSeparator (Text.before '#' before) ++
              Text.joinWith ['&'] (pairs p.bindings) := by
  intro before after
  obtain ⟨htrim, hgrows⟩ := grows_run c huri done
  obtain ⟨-, hstep, hbindings⟩ := orInput_grows htrim c sql
  have hafter : after = (orInput c before sql).1 := run_concat c uri done sql
  obtain ⟨hpath, hfragment, -⟩ := hgrows.trans hstep
  rw [hafter]
  refine ⟨hpath, hfragment, hstep.query, fun p hp hne => ?_⟩
  obtain ⟨hinput, hvisited, hfront⟩ := hbindings p hp hne
  exact ⟨hinput, hvisited, hinput ▸ hfront⟩

/-- The plan of two headers on a table that has got a parameter. -/
def threadedPlan : Plan where
  uri := "/a?k=v&x=1%262&header=h:u&header=h:w#f?#".toList
  sql := "SELECT * FROM \"/a?k=v&x=1%262&header=h:u&header=h:w#f?#\"".toList
  bindings := [⟨.header "h".toList, ["u".toList, "w".toList]⟩]

set_option maxRecDepth 100000 in
theorem run_grows_threadedPlan :
    let first := "SELECT * FROM \"/a?k=v#f?#\" WHERE QUERY_PARAMx = '1&2'".toList
    let second := "SELECT * FROM \"/a?k=v&x=1%262#f?#\" WHERE HEADERh IN ('u', 'w')".toList
    let before := run Config.default "/a?k=v#f?#".toList [first]
    let after := run Config.default "/a?k=v#f?#".toList [first, second]
    make Config.default before second = .ok threadedPlan ∧
      Table.pathOf after = "/a".toList ∧ Table.fragmentOf? after = some "f?#".toList ∧
      Table.queryOf before <+: Table.queryOf after ∧
      Text.before '#' after = Text.before '#' before ++ "&header=h:u&header=h:w".toList := by
  intro first second before after
  have hbefore : before = "/a?k=v&x=1%262#f?#".toList := by decide +kernel
  have hmake : make Config.default before second = .ok threadedPlan := by
    rw [hbefore]
    decide +kernel
  have htrim : Text.trim "/a?k=v#f?#".toList = "/a?k=v#f?#".toList := by decide
  obtain ⟨hpath, hfragment, hquery, hbindings⟩ := run_grows Config.default htrim [first] second
  obtain ⟨-, -, hfront⟩ := hbindings threadedPlan hmake (by decide)
  have hadded : (if pairs threadedPlan.bindings = [] then []
      else Table.pairSeparator (Text.before '#' before) ++
        Text.joinWith ['&'] (pairs threadedPlan.bindings)) =
          "&header=h:u&header=h:w".toList := by
    rw [hbefore]
    decide
  refine ⟨hmake, hpath, hfragment, hquery, ?_⟩
  rw [← hadded]
  exact hfront

end Plan

end Pushdown
