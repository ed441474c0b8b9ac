/-
**Tables that are read without being seen.**

Whether a plan is made at all depends on the tables of a statement: one that does not read from the
virtual table comes back as it is.  The clauses from which bindings are taken reach further than
these tables do, since a query inside a clause is visited as well and the tables that it reads are
not listed.

Main definitions:

* `Plan.Covers` — every table that a visited select reads is listed.

Main results:

* `Plan.readsFrom_iff_select` — when statements read from the virtual table;
* `Plan.covers_iff` — **what is visited, what is listed and when the list is complete**.
-/

import Pushdown.Proofs.Binding.Reach
import Pushdown.Proofs.Plan.Redirect

set_option autoImplicit false

namespace Pushdown

namespace Plan

open Sql (Expr Query Select Statement TableUse)

/-- Every table that is read in a select whose clause is visited is a table of the query. -/
def Covers (q : Query) : Prop :=
  ∀ last, q.Visits last → ∀ s ∈ last.selects, ∀ t ∈ s.tables, t ∈ (Statement.query q).tables

/-- Statements read from a table exactly if a select of one of them does. -/
theorem readsFrom_iff_select {name : Text} {statements : List Statement} :
    readsFrom name statements = true ↔
      ∃ q, Statement.query q ∈ statements ∧ ∃ s ∈ q.selects, ∃ t ∈ s.tables, t.name = name := by
  rw [readsFrom, List.any_eq_true]
  constructor
  · rintro ⟨t, ht, hname⟩
    obtain ⟨s, hs, htables⟩ := List.mem_flatMap.1 ht
    cases s with
    | other text => exact absurd htables List.not_mem_nil
    | query q =>
        obtain ⟨select, hselect, hmem⟩ := (Query.mem_tables_iff q).1 htables
        exact ⟨q, hs, select, hselect, t, hmem, beq_iff_eq.1 hname⟩
  · rintro ⟨q, hq, select, hselect, t, ht, hname⟩
    have htables : t ∈ q.tables := (Query.mem_tables_iff q).2 ⟨select, hselect, ht⟩
    exact ⟨t, List.mem_flatMap.2 ⟨_, hq, htables⟩, beq_iff_eq.2 hname⟩

/-- **What is visited, what is listed and when the list is complete.**  Bindings are taken from the
clauses of all queries visited, also of those inside a clause.  Listed are the tables of the selects
outside of clauses, and the virtual table counts as read exactly if one of these reads it.  So the
list covers all selects visited exactly if every table that a query inside a clause reads, at any
depth, is read outside of clauses too. -/
theorem covers_iff (w : Whitelist) (q : Query) :
    (∀ b, b ∈ ((Statement.query q).extract w).2 ↔
      ∃ last, q.Visits last ∧ ∃ s ∈ last.selects, ∃ leaf ∈ Expr.leavesOf s.clause,
        Sql.IsBinding w leaf.2 b) ∧
    (∀ t, t ∈ (Statement.query q).tables ↔ ∃ s ∈ q.selects, t ∈ s.tables) ∧
    (∀ name, readsFrom name [.query q] = true ↔
      ∃ s ∈ q.selects, ∃ t ∈ s.tables, t.name = name) ∧
    (Covers q ↔ ∀ inner ∈ q.inner, ∀ last, inner.Visits last → ∀ t ∈ last.tables,
      ∃ s ∈ q.selects, t ∈ s.tables) := by
  have htables (t : TableUse) :
      t ∈ (Statement.query q).tables ↔ ∃ s ∈ q.selects, t ∈ s.tables := Query.mem_tables_iff q
  refine ⟨fun b => ?_, htables, fun name => ?_, ?_⟩
  · have hbindings : b ∈ ((Statement.query q).extract w).2 ↔ _ := Query.mem_bindings_iff w q
    rw [hbindings]
    refine exists_congr fun last => and_congr_right fun _ => ?_
    constructor
    · rintro ⟨leaf, hleaf, hb⟩
      obtain ⟨s, hs, hmem⟩ := List.mem_flatMap.1 hleaf
      obtain ⟨l, hl, rfl⟩ := List.mem_map.1 hmem
      exact ⟨s, hs, l, hl, hb⟩
    · rintro ⟨s, hs, l, hl, hb⟩
      exact ⟨l.2, List.mem_flatMap.2 ⟨s, hs, List.mem_map_of_mem hl⟩, hb⟩
  · rw [readsFrom_iff_select]
    constructor
    · rintro ⟨q', hq', hread⟩
      obtain rfl := Statement.query.inj (List.mem_singleton.1 hq')
      exact hread
    · exact fun hread => ⟨q, List.mem_singleton.2 rfl, hread⟩
  · constructor
    · intro hcovers inner hinner last hlast t ht
      obtain ⟨s, hs, hmem⟩ := (Query.mem_tables_iff last).1 ht
      exact (htables t).1 (hcovers last (.inside hinner hlast) s hs t hmem)
    · intro hinside last hlast s hs t ht
      rw [htables]
      rcases Query.visits_iff.1 hlast with rfl | ⟨inner, hinner, hrest⟩
      · exact ⟨s, hs, ht⟩
      · exact hinside inner hinner last hrest t ((Query.mem_tables_iff last).2 ⟨s, hs, ht⟩)

/-- A query that reads the virtual table inside its clause only. -/
def existsSql : Text :=
  "SELECT * FROM \"/b\" WHERE EXISTS (SELECT 1 FROM \"/a\" WHERE \"QUERY_PARAMx\" = 1)".toList

/-- The query inside. -/
def innerQuery : Query :=
  .mk false []
    (.select (.mk false "SELECT 1".toList [.mk (.table (inQuotes '"' "/a".toList) [] none []) []] []
      (some oneCondition) [])) []

/-- The query around it. -/
def outerQuery : Query :=
  .mk false []
    (.select (.mk false "SELECT *".toList [.mk (.table (inQuotes '"' "/b".toList) [] none []) []] []
      (some (.existence innerQuery false)) [])) []

set_option maxRecDepth 100000 in
/-- The inner query reads the virtual table and has a binding, but the table is not listed, and the
statement comes back with its condition in place. -/
theorem not_covers_outerQuery :
    Sql.parse .postgresql existsSql = .ok [.query outerQuery] ∧
      ((Statement.query outerQuery).extract Whitelist.empty).2 =
        [⟨.param "x".toList, ["1".toList]⟩] ∧
      (∃ last, outerQuery.Visits last ∧ ∃ s ∈ last.selects, ⟨"/a".toList, none⟩ ∈ s.tables) ∧
      (Statement.query outerQuery).tables = [⟨"/b".toList, none⟩] ∧ ¬ Covers outerQuery ∧
      make Config.default "/a".toList existsSql = .ok ⟨"/a".toList, existsSql, []⟩ := by
  have hvisits : outerQuery.Visits innerQuery := .inside List.mem_cons_self (.here _)
  have hreads : ∃ s ∈ innerQuery.selects, (⟨"/a".toList, none⟩ : TableUse) ∈ s.tables :=
    (Query.mem_tables_iff innerQuery).1 List.mem_cons_self
  have htables : (Statement.query outerQuery).tables = [⟨"/b".toList, none⟩] := rfl
  refine ⟨by decide +kernel, rfl, ⟨_, hvisits, hreads⟩, htables, fun hcovers => ?_,
    by decide +kernel⟩
  obtain ⟨s, hs, ht⟩ := hreads
  have hlisted := hcovers _ hvisits s hs _ ht
  rw [htables] at hlisted
  exact absurd hlisted (by decide)

end Plan

end Pushdown
