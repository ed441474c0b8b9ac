/-
**Which selects are visited, and which tables are seen.**

The selects of a query stand in its common tables, its set operations and its queries in place of
tables.  Extraction visits their clauses, and goes on into the queries that a clause is made of, to
any depth.  The tables of a query are those of its selects only: a query inside a clause has tables
of its own, which are not tables of the query around it.

Main definitions:

* `Sql.Query.selects` — the selects of a query in the order of the visit;
* `Sql.Query.inner` — the queries that the clauses of a query are made of;
* `Sql.Query.Visits` — the queries that extraction comes to.

Main results:

* `Sql.Query.nesting_induction` — induction along queries inside clauses;
* `Sql.Query.mem_visited_iff` — **the leaves that are visited are those of all queries visited**;
* `Sql.Query.mem_bindings_iff` — the bindings of a query;
* `Sql.Query.mem_tables_iff` — **the tables of a query are those of its own selects**.
-/

import Pushdown.Proofs.Binding.Extraction
import Pushdown.Sql.Tables

set_option autoImplicit false

namespace Pushdown

namespace Sql

/-! ### Selects -/

mutual

/-- The selects of a query. -/
def Query.selects : Query → List Select
  | .mk _ commons body _ => CommonTable.selectsOfAll commons ++ body.selects

/-- The selects of common tables. -/
def CommonTable.selectsOfAll : List CommonTable → List Select
  | [] => []
  | c :: rest => c.selects ++ CommonTable.selectsOfAll rest

/-- The selects of a common table. -/
def CommonTable.selects : CommonTable → List Select
  | .mk _ _ query _ => query.selects

/-- The selects of a query body. -/
def SetExpr.selects : SetExpr → List Select
  | .select select => select.selects
  | .query query => query.selects
  | .combine _ left right => left.selects ++ right.selects
  | .other _ => []

/-- The selects of the tables of a select, and then the select itself. -/
def Select.selects : Select → List Select
  | .mk fromFirst head source middle selection tail =>
      TableTree.selectsOfAll source ++ [.mk fromFirst head source middle selection tail]

/-- The selects of tables with their joins. -/
def TableTree.selectsOfAll : List TableTree → List Select
  | [] => []
  | t :: rest => t.selects ++ TableTree.selectsOfAll rest

/-- The selects of a table with its joins. -/
def TableTree.selects : TableTree → List Select
  | .mk relation joins => relation.selects ++ Join.selectsOfAll joins

/-- The selects of joins. -/
def Join.selectsOfAll : List Join → List Select
  | [] => []
  | j :: rest => j.selects ++ Join.selectsOfAll rest

/-- The selects of a join. -/
def Join.selects : Join → List Select
  | .mk _ relation _ => relation.selects

/-- The selects of a table. -/
def TableFactor.selects : TableFactor → List Select
  | .table _ _ _ _ => []
  | .derived _ query _ => query.selects
  | .joined tree _ => tree.selects
  | .other _ _ _ => []

end

/-- The clause of a select. -/
def Select.clause : Select → Option Expr
  | .mk _ _ _ _ selection _ => selection

/-- The queries that a clause is made of. -/
def Expr.queriesOf : Option Expr → List Query
  | none => []
  | some e => e.queries

/-- The queries that the clauses of a query are made of. -/
def Query.inner (q : Query) : List Query := q.selects.flatMap fun s => Expr.queriesOf s.clause

/-! ### Sizes -/

theorem Expr.sizeOf_lt_of_mem_queries : ∀ (e : Expr) {inner : Query}, inner ∈ e.queries →
    sizeOf inner < sizeOf e
  | .unary _ operand, _, h => by
      have hoperand := Expr.sizeOf_lt_of_mem_queries operand h
      simp only [Expr.unary.sizeOf_spec]
      omega
  | .binary .and left right, _, h => by
      simp only [Expr.binary.sizeOf_spec]
      rcases List.mem_append.1 h with h | h
      · have hleft := Expr.sizeOf_lt_of_mem_queries left h
        omega
      · have hright := Expr.sizeOf_lt_of_mem_queries right h
        omega
  | .binary .or left right, _, h => by
      simp only [Expr.binary.sizeOf_spec]
      rcases List.mem_append.1 h with h | h
      · have hleft := Expr.sizeOf_lt_of_mem_queries left h
        omega
      · have hright := Expr.sizeOf_lt_of_mem_queries right h
        omega
  | .nested operand, _, h => by
      have hoperand := Expr.sizeOf_lt_of_mem_queries operand h
      simp only [Expr.nested.sizeOf_spec]
      omega
  | .subquery query, _, h => by
      obtain rfl := List.mem_singleton.1 h
      simp only [Expr.subquery.sizeOf_spec]
      omega
  | .existence query _, _, h => by
      obtain rfl := List.mem_singleton.1 h
      simp only [Expr.existence.sizeOf_spec]
      omega
  | .binary .eq _ _, _, h => absurd h List.not_mem_nil
  | .binary (.other _) _ _, _, h => absurd h List.not_mem_nil
  | .inList _ _ _, _, h => absurd h List.not_mem_nil
  | .ident _, _, h => absurd h List.not_mem_nil
  | .literal _, _, h => absurd h List.not_mem_nil
  | .compound _, _, h => absurd h List.not_mem_nil
  | .call _, _, h => absurd h List.not_mem_nil
  | .other _, _, h => absurd h List.not_mem_nil

mutual

/-- The selects of a query are no larger than the query. -/
theorem Query.sizeOf_select_le : ∀ (q : Query) {s : Select}, s ∈ q.selects →
    sizeOf s ≤ sizeOf q
  | .mk _ commons body _, _, h => by
      simp only [Query.mk.sizeOf_spec]
      rcases List.mem_append.1 h with h | h
      · have hcommons := CommonTable.sizeOf_select_le_all commons h
        omega
      · have hbody := SetExpr.sizeOf_select_le body h
        omega

theorem CommonTable.sizeOf_select_le_all : ∀ (commons : List CommonTable) {s : Select},
    s ∈ CommonTable.selectsOfAll commons → sizeOf s ≤ sizeOf commons
  | [], _, h => absurd h List.not_mem_nil
  | c :: rest, _, h => by
      simp only [List.cons.sizeOf_spec]
      rcases List.mem_append.1 h with h | h
      · have hc := CommonTable.sizeOf_select_le c h
        omega
      · have hrest := CommonTable.sizeOf_select_le_all rest h
        omega

theorem CommonTable.sizeOf_select_le : ∀ (c : CommonTable) {s : Select}, s ∈ c.selects →
    sizeOf s ≤ sizeOf c
  | .mk _ _ query _, _, h => by
      have hquery := Query.sizeOf_select_le query h
      simp only [CommonTable.mk.sizeOf_spec]
      omega

theorem SetExpr.sizeOf_select_le : ∀ (body : SetExpr) {s : Select}, s ∈ body.selects →
    sizeOf s ≤ sizeOf body
  | .select select, _, h => by
      have hselect := Select.sizeOf_select_le select h
      simp only [SetExpr.select.sizeOf_spec]
      omega
  | .query query, _, h => by
      have hquery := Query.sizeOf_select_le query h
      simp only [SetExpr.query.sizeOf_spec]
      omega
  | .combine _ left right, _, h => by
      simp only [SetExpr.combine.sizeOf_spec]
      rcases List.mem_append.1 h with h | h
      · have hleft := SetExpr.sizeOf_select_le left h
        omega
      · have hright := SetExpr.sizeOf_select_le right h
        omega
  | .other _, _, h => absurd h List.not_mem_nil

theorem Select.sizeOf_select_le : ∀ (select : Select) {s : Select}, s ∈ select.selects →
    sizeOf s ≤ sizeOf select
  | .mk _ _ source _ _ _, _, h => by
      rcases List.mem_append.1 h with h | h
      · have hsource := TableTree.sizeOf_select_le_all source h
        simp only [Select.mk.sizeOf_spec]
        omega
      · obtain rfl := List.mem_singleton.1 h
        exact Nat.le_refl _

theorem TableTree.sizeOf_select_le_all : ∀ (source : List TableTree) {s : Select},
    s ∈ TableTree.selectsOfAll source → sizeOf s ≤ sizeOf source
  | [], _, h => absurd h List.not_mem_nil
  | t :: rest, _, h => by
      simp only [List.cons.sizeOf_spec]
      rcases List.mem_append.1 h with h | h
      · have ht := TableTree.sizeOf_select_le t h
        omega
      · have hrest := TableTree.sizeOf_select_le_all rest h
        omega

theorem TableTree.sizeOf_select_le : ∀ (t : TableTree) {s : Select}, s ∈ t.selects →
    sizeOf s ≤ sizeOf t
  | .mk relation joins, _, h => by
      simp only [TableTree.mk.sizeOf_spec]
      rcases List.mem_append.1 h with h | h
      · have hrelation := TableFactor.sizeOf_select_le relation h
        omega
      · have hjoins := Join.sizeOf_select_le_all joins h
        omega

theorem Join.sizeOf_select_le_all : ∀ (joins : List Join) {s : Select},
    s ∈ Join.selectsOfAll joins → sizeOf s ≤ sizeOf joins
  | [], _, h => absurd h List.not_mem_nil
  | j :: rest, _, h => by
      simp only [List.cons.sizeOf_spec]
      rcases List.mem_append.1 h with h | h
      · have hj := Join.sizeOf_select_le j h
        omega
      · have hrest := Join.sizeOf_select_le_all rest h
        omega

theorem Join.sizeOf_select_le : ∀ (j : Join) {s : Select}, s ∈ j.selects → sizeOf s ≤ sizeOf j
  | .mk _ relation _, _, h => by
      have hrelation := TableFactor.sizeOf_select_le relation h
      simp only [Join.mk.sizeOf_spec]
      omega

theorem TableFactor.sizeOf_select_le : ∀ (t : TableFactor) {s : Select}, s ∈ t.selects →
    sizeOf s ≤ sizeOf t
  | .table _ _ _ _, _, h => absurd h List.not_mem_nil
  | .derived _ query _, _, h => by
      have hquery := Query.sizeOf_select_le query h
      simp only [TableFactor.derived.sizeOf_spec]
      omega
  | .joined tree _, _, h => by
      have htree := TableTree.sizeOf_select_le tree h
      simp only [TableFactor.joined.sizeOf_spec]
      omega
  | .other _ _ _, _, h => absurd h List.not_mem_nil

end

/-- A query inside a clause is smaller than the query around it. -/
theorem Query.sizeOf_lt_of_mem_inner {q inner : Query} (h : inner ∈ q.inner) :
    sizeOf inner < sizeOf q := by
  obtain ⟨s, hs, hinner⟩ := List.mem_flatMap.1 h
  have hselect := Query.sizeOf_select_le q hs
  obtain ⟨_, _, _, _, clause, _⟩ := s
  cases clause with
  | none => exact absurd hinner List.not_mem_nil
  | some e =>
      have he := Expr.sizeOf_lt_of_mem_queries e hinner
      simp only [Select.mk.sizeOf_spec, Option.some.sizeOf_spec] at hselect
      omega

/-- Induction along queries inside clauses. -/
theorem Query.nesting_induction {motive : Query → Prop}
    (step : ∀ q, (∀ inner ∈ q.inner, motive inner) → motive q) (q : Query) : motive q :=
  step q fun inner _ => Query.nesting_induction step inner
termination_by sizeOf q
decreasing_by exact Query.sizeOf_lt_of_mem_inner ‹_›

/-! ### Queries that are visited -/

/-- Extraction comes from one query to another: to itself, and from a query to those that its
clauses are made of. -/
inductive Query.Visits : Query → Query → Prop
  | here (q : Query) : q.Visits q
  | inside {q inner last : Query} : inner ∈ q.inner → inner.Visits last → q.Visits last

theorem Query.visits_iff {q last : Query} :
    q.Visits last ↔ last = q ∨ ∃ inner ∈ q.inner, inner.Visits last := by
  constructor
  · intro h
    cases h with
    | here => exact Or.inl rfl
    | inside hinner hlast => exact Or.inr ⟨_, hinner, hlast⟩
  · rintro (rfl | ⟨inner, hinner, hlast⟩)
    · exact .here _
    · exact .inside hinner hlast

/-- The leaves of a clause without the ways to them. -/
def Expr.leavesIn (clause : Option Expr) : List Expr := (Expr.leavesOf clause).map Prod.snd

/-- The leaves of the clauses of a query. -/
def Query.leaves (q : Query) : List Expr := q.selects.flatMap fun s => Expr.leavesIn s.clause

theorem Expr.leavesIn_connective {op : Operator} (h : op.IsConnective) (left right : Expr) :
    Expr.leavesIn (some (.binary op left right)) =
      Expr.leavesIn (some left) ++ Expr.leavesIn (some right) := by
  simp only [leavesIn, leavesOf, leavesAt_connective h, List.map_append, List.map_map]
  rfl

theorem Expr.leavesIn_nested (inner : Expr) :
    Expr.leavesIn (some (.nested inner)) = Expr.leavesIn (some inner) := by
  simp only [leavesIn, leavesOf, leavesAt, List.map_map]
  rfl

/-- What is visited inside an operand is what the queries in it visit. -/
theorem Expr.visitedInside_eq : ∀ e : Expr, e.visitedInside = e.queries.flatMap Query.visited
  | .binary .and left right => by
      simp only [visitedInside, queries, List.flatMap_append, visitedInside_eq left,
        visitedInside_eq right]
  | .binary .or left right => by
      simp only [visitedInside, queries, List.flatMap_append, visitedInside_eq left,
        visitedInside_eq right]
  | .nested inner => visitedInside_eq inner
  | .unary _ operand => visitedInside_eq operand
  | .subquery query => by simp only [visitedInside, queries, List.flatMap_singleton]
  | .existence query _ => by simp only [visitedInside, queries, List.flatMap_singleton]
  | .binary .eq _ _ => rfl
  | .binary (.other _) _ _ => rfl
  | .inList _ _ _ => rfl
  | .ident _ => rfl
  | .literal _ => rfl
  | .compound _ => rfl
  | .call _ => rfl
  | .other _ => rfl

/-- A leaf is visited with what the queries in it visit. -/
theorem Expr.visited_leaf {e : Expr} (h : e.isLeaf = true) :
    e.visited = e :: e.queries.flatMap Query.visited := by
  cases e with
  | unary op operand =>
      simp only [visited, queries]
      rw [visitedInside_eq]
  | binary op left right =>
      cases op with
      | and => exact absurd h (by simp [isLeaf])
      | or => exact absurd h (by simp [isLeaf])
      | eq => rfl
      | other op => rfl
  | nested inner => exact absurd h (by simp [isLeaf])
  | subquery query => simp only [visited, queries, List.flatMap_singleton]
  | existence query negated => simp only [visited, queries, List.flatMap_singleton]
  | _ => rfl

/-- The leaves visited in a condition are its own and those of the queries that it is made of. -/
theorem Expr.mem_visited_iff {leaf : Expr} (e : Expr) :
    leaf ∈ e.visited ↔
      leaf ∈ Expr.leavesIn (some e) ∨ ∃ inner ∈ e.queries, leaf ∈ inner.visited := by
  induction e using Expr.skeleton_induction with
  | connective op left right hop ihl ihr =>
      have hvisited : (Expr.binary op left right).visited = left.visited ++ right.visited := by
        rcases hop with rfl | rfl <;> rfl
      have hqueries : (Expr.binary op left right).queries = left.queries ++ right.queries := by
        rcases hop with rfl | rfl <;> rfl
      simp only [hvisited, hqueries, leavesIn_connective hop, List.mem_append, ihl, ihr,
        or_and_right, exists_or]
      exact or_or_or_comm
  | nested inner ih => rwa [leavesIn_nested]
  | leaf e he =>
      simp only [visited_leaf he, leavesIn, leavesOf, leavesAt_leaf he, List.mem_cons,
        List.mem_flatMap, List.map_cons, List.map_nil, List.not_mem_nil, or_false]

mutual

/-- The leaves visited in a query are those of the clauses of its selects. -/
theorem Query.visited_eq : ∀ q : Query,
    q.visited = q.selects.flatMap fun s => Expr.visitedOf s.clause
  | .mk _ commons body _ => by
      simp only [Query.visited, Query.selects, List.flatMap_append,
        CommonTable.visitedOfAll_eq commons, SetExpr.visited_eq body]

theorem CommonTable.visitedOfAll_eq : ∀ commons : List CommonTable,
    CommonTable.visitedOfAll commons =
      (CommonTable.selectsOfAll commons).flatMap fun s => Expr.visitedOf s.clause
  | [] => rfl
  | c :: rest => by
      simp only [CommonTable.visitedOfAll, CommonTable.selectsOfAll, List.flatMap_append,
        CommonTable.visited_eq c, CommonTable.visitedOfAll_eq rest]

theorem CommonTable.visited_eq : ∀ c : CommonTable,
    c.visited = c.selects.flatMap fun s => Expr.visitedOf s.clause
  | .mk _ _ query _ => Query.visited_eq query

theorem SetExpr.visited_eq : ∀ body : SetExpr,
    body.visited = body.selects.flatMap fun s => Expr.visitedOf s.clause
  | .select select => Select.visited_eq select
  | .query query => Query.visited_eq query
  | .combine _ left right => by
      simp only [SetExpr.visited, SetExpr.selects, List.flatMap_append, SetExpr.visited_eq left,
        SetExpr.visited_eq right]
  | .other _ => rfl

theorem Select.visited_eq : ∀ select : Select,
    select.visited = select.selects.flatMap fun s => Expr.visitedOf s.clause
  | .mk _ _ source _ _ _ => by
      simp only [Select.visited, Select.selects, List.flatMap_append, List.flatMap_singleton,
        TableTree.visitedOfAll_eq source, Select.clause]

theorem TableTree.visitedOfAll_eq : ∀ source : List TableTree,
    TableTree.visitedOfAll source =
      (TableTree.selectsOfAll source).flatMap fun s => Expr.visitedOf s.clause
  | [] => rfl
  | t :: rest => by
      simp only [TableTree.visitedOfAll, TableTree.selectsOfAll, List.flatMap_append,
        TableTree.visited_eq t, TableTree.visitedOfAll_eq rest]

theorem TableTree.visited_eq : ∀ t : TableTree,
    t.visited = t.selects.flatMap fun s => Expr.visitedOf s.clause
  | .mk relation joins => by
      simp only [TableTree.visited, TableTree.selects, List.flatMap_append,
        TableFactor.visited_eq relation, Join.visitedOfAll_eq joins]

theorem Join.visitedOfAll_eq : ∀ joins : List Join,
    Join.visitedOfAll joins =
      (Join.selectsOfAll joins).flatMap fun s => Expr.visitedOf s.clause
  | [] => rfl
  | j :: rest => by
      simp only [Join.visitedOfAll, Join.selectsOfAll, List.flatMap_append, Join.visited_eq j,
        Join.visitedOfAll_eq rest]

theorem Join.visited_eq : ∀ j : Join,
    j.visited = j.selects.flatMap fun s => Expr.visitedOf s.clause
  | .mk _ relation _ => TableFactor.visited_eq relation

theorem TableFactor.visited_eq : ∀ t : TableFactor,
    t.visited = t.selects.flatMap fun s => Expr.visitedOf s.clause
  | .table _ _ _ _ => rfl
  | .derived _ query _ => Query.visited_eq query
  | .joined tree _ => TableTree.visited_eq tree
  | .other _ _ _ => rfl

end

/-- The leaves visited in a query are its own and those visited in the queries inside. -/
theorem Query.mem_visited_step {leaf : Expr} (q : Query) :
    leaf ∈ q.visited ↔ leaf ∈ q.leaves ∨ ∃ inner ∈ q.inner, leaf ∈ inner.visited := by
  have hclause (clause : Option Expr) : leaf ∈ Expr.visitedOf clause ↔
      leaf ∈ Expr.leavesIn clause ∨ ∃ inner ∈ Expr.queriesOf clause, leaf ∈ inner.visited := by
    cases clause with
    | none => simp [Expr.visitedOf, Expr.leavesIn, Expr.leavesOf, Expr.queriesOf]
    | some e => exact Expr.mem_visited_iff e
  rw [Query.visited_eq, Query.leaves, Query.inner]
  simp only [List.mem_flatMap, hclause]
  constructor
  · rintro ⟨s, hs, hleaf | ⟨inner, hinner, hleaf⟩⟩
    · exact Or.inl ⟨s, hs, hleaf⟩
    · exact Or.inr ⟨inner, ⟨s, hs, hinner⟩, hleaf⟩
  · rintro (⟨s, hs, hleaf⟩ | ⟨inner, ⟨s, hs, hinner⟩, hleaf⟩)
    · exact ⟨s, hs, Or.inl hleaf⟩
    · exact ⟨s, hs, Or.inr ⟨inner, hinner, hleaf⟩⟩

/-- **The leaves that are visited are those of all queries visited.** -/
theorem Query.mem_visited_iff {leaf : Expr} (q : Query) :
    leaf ∈ q.visited ↔ ∃ last, q.Visits last ∧ leaf ∈ last.leaves := by
  induction q using Query.nesting_induction with
  | step q ih =>
      rw [Query.mem_visited_step]
      constructor
      · rintro (hleaf | ⟨inner, hinner, hleaf⟩)
        · exact ⟨q, .here q, hleaf⟩
        · obtain ⟨last, hlast, hmem⟩ := (ih inner hinner).1 hleaf
          exact ⟨last, .inside hinner hlast, hmem⟩
      · rintro ⟨last, hlast, hleaf⟩
        rcases Query.visits_iff.1 hlast with rfl | ⟨inner, hinner, hrest⟩
        · exact Or.inl hleaf
        · exact Or.inr ⟨inner, hinner, (ih inner hinner).2 ⟨last, hrest, hleaf⟩⟩

/-- The bindings of a query are those in the clauses of all queries visited. -/
theorem Query.mem_bindings_iff (w : Whitelist) {b : Binding} (q : Query) :
    b ∈ (q.extract w).2 ↔
      ∃ last, q.Visits last ∧ ∃ leaf ∈ last.leaves, IsBinding w leaf b := by
  rw [Query.extract_bindings, List.mem_filterMap]
  simp only [Expr.binding?_eq_some_iff, Query.mem_visited_iff]
  constructor
  · rintro ⟨leaf, ⟨last, hlast, hleaf⟩, hb⟩
    exact ⟨last, hlast, leaf, hleaf, hb⟩
  · rintro ⟨last, hlast, leaf, hleaf, hb⟩
    exact ⟨leaf, ⟨last, hlast, hleaf⟩, hb⟩

/-! ### Tables that are seen -/

mutual

/-- What a select of a query reads, the query reads. -/
theorem Query.tables_of_select : ∀ (q : Query) {s : Select}, s ∈ q.selects →
    ∀ t ∈ s.tables, t ∈ q.tables
  | .mk _ commons body _, _, h, t, ht => by
      rcases List.mem_append.1 h with h | h
      · exact List.mem_append_left _ (CommonTable.tables_of_select_all commons h t ht)
      · exact List.mem_append_right _ (SetExpr.tables_of_select body h t ht)

theorem CommonTable.tables_of_select_all : ∀ (commons : List CommonTable) {s : Select},
    s ∈ CommonTable.selectsOfAll commons → ∀ t ∈ s.tables, t ∈ CommonTable.allTables commons
  | [], _, h, _, _ => absurd h List.not_mem_nil
  | c :: rest, _, h, t, ht => by
      rcases List.mem_append.1 h with h | h
      · exact List.mem_append_left _ (CommonTable.tables_of_select c h t ht)
      · exact List.mem_append_right _ (CommonTable.tables_of_select_all rest h t ht)

theorem CommonTable.tables_of_select : ∀ (c : CommonTable) {s : Select}, s ∈ c.selects →
    ∀ t ∈ s.tables, t ∈ c.tables
  | .mk _ _ query _, _, h, t, ht => Query.tables_of_select query h t ht

theorem SetExpr.tables_of_select : ∀ (body : SetExpr) {s : Select}, s ∈ body.selects →
    ∀ t ∈ s.tables, t ∈ body.tables
  | .select select, _, h, t, ht => Select.tables_of_select select h t ht
  | .query query, _, h, t, ht => Query.tables_of_select query h t ht
  | .combine _ left right, _, h, t, ht => by
      rcases List.mem_append.1 h with h | h
      · exact List.mem_append_left _ (SetExpr.tables_of_select left h t ht)
      · exact List.mem_append_right _ (SetExpr.tables_of_select right h t ht)
  | .other _, _, h, _, _ => absurd h List.not_mem_nil

theorem Select.tables_of_select : ∀ (select : Select) {s : Select}, s ∈ select.selects →
    ∀ t ∈ s.tables, t ∈ select.tables
  | .mk _ _ source _ _ _, _, h, t, ht => by
      rcases List.mem_append.1 h with h | h
      · exact TableTree.tables_of_select_all source h t ht
      · obtain rfl := List.mem_singleton.1 h
        exact ht

theorem TableTree.tables_of_select_all : ∀ (source : List TableTree) {s : Select},
    s ∈ TableTree.selectsOfAll source → ∀ t ∈ s.tables, t ∈ TableTree.allTables source
  | [], _, h, _, _ => absurd h List.not_mem_nil
  | tree :: rest, _, h, t, ht => by
      rcases List.mem_append.1 h with h | h
      · exact List.mem_append_left _ (TableTree.tables_of_select tree h t ht)
      · exact List.mem_append_right _ (TableTree.tables_of_select_all rest h t ht)

theorem TableTree.tables_of_select : ∀ (tree : TableTree) {s : Select}, s ∈ tree.selects →
    ∀ t ∈ s.tables, t ∈ tree.tables
  | .mk relation joins, _, h, t, ht => by
      rcases List.mem_append.1 h with h | h
      · exact List.mem_append_left _ (TableFactor.tables_of_select relation h t ht)
      · exact List.mem_append_right _ (Join.tables_of_select_all joins h t ht)

theorem Join.tables_of_select_all : ∀ (joins : List Join) {s : Select},
    s ∈ Join.selectsOfAll joins → ∀ t ∈ s.tables, t ∈ Join.allTables joins
  | [], _, h, _, _ => absurd h List.not_mem_nil
  | j :: rest, _, h, t, ht => by
      rcases List.mem_append.1 h with h | h
      · exact List.mem_append_left _ (Join.tables_of_select j h t ht)
      · exact List.mem_append_right _ (Join.tables_of_select_all rest h t ht)

theorem Join.tables_of_select : ∀ (j : Join) {s : Select}, s ∈ j.selects →
    ∀ t ∈ s.tables, t ∈ j.tables
  | .mk _ relation _, _, h, t, ht => TableFactor.tables_of_select relation h t ht

theorem TableFactor.tables_of_select : ∀ (factor : TableFactor) {s : Select},
    s ∈ factor.selects → ∀ t ∈ s.tables, t ∈ factor.tables
  | .table _ _ _ _, _, h, _, _ => absurd h List.not_mem_nil
  | .derived _ query _, _, h, t, ht => Query.tables_of_select query h t ht
  | .joined tree _, _, h, t, ht => TableTree.tables_of_select tree h t ht
  | .other _ _ _, _, h, _, _ => absurd h List.not_mem_nil

end

mutual

/-- What a query reads, one of its selects reads. -/
theorem Query.exists_select : ∀ (q : Query) {t : TableUse}, t ∈ q.tables →
    ∃ s ∈ q.selects, t ∈ s.tables
  | .mk _ commons body _, t, h => by
      rcases List.mem_append.1 h with h | h
      · obtain ⟨s, hs, ht⟩ := CommonTable.exists_select_all commons h
        exact ⟨s, List.mem_append_left _ hs, ht⟩
      · obtain ⟨s, hs, ht⟩ := SetExpr.exists_select body h
        exact ⟨s, List.mem_append_right _ hs, ht⟩

theorem CommonTable.exists_select_all : ∀ (commons : List CommonTable) {t : TableUse},
    t ∈ CommonTable.allTables commons → ∃ s ∈ CommonTable.selectsOfAll commons, t ∈ s.tables
  | [], _, h => absurd h List.not_mem_nil
  | c :: rest, t, h => by
      rcases List.mem_append.1 h with h | h
      · obtain ⟨s, hs, ht⟩ := CommonTable.exists_select c h
        exact ⟨s, List.mem_append_left _ hs, ht⟩
      · obtain ⟨s, hs, ht⟩ := CommonTable.exists_select_all rest h
        exact ⟨s, List.mem_append_right _ hs, ht⟩

theorem CommonTable.exists_select : ∀ (c : CommonTable) {t : TableUse}, t ∈ c.tables →
    ∃ s ∈ c.selects, t ∈ s.tables
  | .mk _ _ query _, _, h => Query.exists_select query h

theorem SetExpr.exists_select : ∀ (body : SetExpr) {t : TableUse}, t ∈ body.tables →
    ∃ s ∈ body.selects, t ∈ s.tables
  -- The select itself is the last of its selects.
  | .select (.mk _ _ source _ _ _), _, h =>
      ⟨_, List.mem_append_right _ (List.mem_singleton.2 rfl), h⟩
  | .query query, _, h => Query.exists_select query h
  | .combine _ left right, t, h => by
      rcases List.mem_append.1 h with h | h
      · obtain ⟨s, hs, ht⟩ := SetExpr.exists_select left h
        exact ⟨s, List.mem_append_left _ hs, ht⟩
      · obtain ⟨s, hs, ht⟩ := SetExpr.exists_select right h
        exact ⟨s, List.mem_append_right _ hs, ht⟩
  | .other _, _, h => absurd h List.not_mem_nil

end

/-- **The tables of a query are those of its own selects.** -/
theorem Query.mem_tables_iff {t : TableUse} (q : Query) :
    t ∈ q.tables ↔ ∃ s ∈ q.selects, t ∈ s.tables := by
  constructor
  · exact Query.exists_select q
  · rintro ⟨s, hs, ht⟩
    exact Query.tables_of_select q hs t ht

end Sql

end Pushdown
