/-
**Extraction changes conditions only.**

The outline of a statement is the statement without the conditions of its clauses: projections,
tables, joins with their conditions, groupings, orders, limits and second names stay, at every
depth.  Of a clause only the queries that it is made of stay, each as its own outline, under the
connectives, parentheses and signs that stand above them.  A statement and its residual statement
have the same outline, and read the same tables under the same second names.

Main definitions:

* `Sql.Expr.outline` — the queries that a condition is made of, where they stand in it;
* `Sql.Query.outline`, `Sql.Statement.outline` — a query or statement without its conditions.

Main results:

* `Sql.Expr.outline_prune`, `Sql.Query.outline_extract` — pruning keeps the outline;
* `Sql.Query.tables_outline` — conditions do not matter for the tables that are read;
* `Sql.Statement.extract_keeps_outline` — **extraction changes the conditions of clauses only**.
-/

import Pushdown.Proofs.Binding.Condition
import Pushdown.Sql.Tables

set_option autoImplicit false

namespace Pushdown

namespace Sql

/-! ### Outlines -/

mutual

/-- The outline of a condition: the queries that it is made of, where they stand; nothing if there
are none. -/
def Expr.outline : Expr → Option Expr
  | .binary .and left right => connect .and left.outline right.outline
  | .binary .or left right => connect .or left.outline right.outline
  | .nested inner => inner.outline.map .nested
  | .unary op operand => operand.outline.map (.unary op)
  | .subquery query => some (.subquery query.outline)
  | .existence query negated => some (.existence query.outline negated)
  | _ => none

/-- The outline of a clause. -/
def Expr.outlineOf : Option Expr → Option Expr
  | none => none
  | some e => e.outline

/-- A query without the conditions of its clauses. -/
def Query.outline : Query → Query
  | .mk isRecursive commons body tail =>
      .mk isRecursive (CommonTable.outlineEach commons) body.outline tail

/-- Common tables without the conditions of their clauses. -/
def CommonTable.outlineEach : List CommonTable → List CommonTable
  | [] => []
  | c :: rest => c.outline :: CommonTable.outlineEach rest

/-- A common table without the conditions of its clauses. -/
def CommonTable.outline : CommonTable → CommonTable
  | .mk name mark query tail => .mk name mark query.outline tail

/-- A query body without the conditions of its clauses. -/
def SetExpr.outline : SetExpr → SetExpr
  | .select select => .select select.outline
  | .query query => .query query.outline
  | .combine op left right => .combine op left.outline right.outline
  | .other text => .other text

/-- A select without the conditions of its clauses. -/
def Select.outline : Select → Select
  | .mk fromFirst head source middle selection tail =>
      .mk fromFirst head (TableTree.outlineEach source) middle (Expr.outlineOf selection) tail

/-- Tables with their joins without the conditions of their clauses. -/
def TableTree.outlineEach : List TableTree → List TableTree
  | [] => []
  | t :: rest => t.outline :: TableTree.outlineEach rest

/-- A table with its joins without the conditions of their clauses. -/
def TableTree.outline : TableTree → TableTree
  | .mk relation joins => .mk relation.outline (Join.outlineEach joins)

/-- Joins without the conditions of their clauses. -/
def Join.outlineEach : List Join → List Join
  | [] => []
  | j :: rest => j.outline :: Join.outlineEach rest

/-- A join without the conditions of its clauses; the join condition is none of them. -/
def Join.outline : Join → Join
  | .mk kind relation constraint => .mk kind relation.outline constraint

/-- A table without the conditions of its clauses. -/
def TableFactor.outline : TableFactor → TableFactor
  | .table name middle aliasName tail => .table name middle aliasName tail
  | .derived lateral query aliasName => .derived lateral query.outline aliasName
  | .joined tree aliasName => .joined tree.outline aliasName
  | .other text aliasName tail => .other text aliasName tail

end

/-- A statement without the conditions of its clauses; only queries have some. -/
def Statement.outline : Statement → Statement
  | query q => query q.outline
  | other text => other text

/-- The outline of a connective of what is left of its two sides. -/
theorem Expr.outlineOf_connect {op : Operator} (h : op.IsConnective) (left right : Option Expr) :
    Expr.outlineOf (connect op left right) =
      connect op (Expr.outlineOf left) (Expr.outlineOf right) := by
  cases left with
  | none => rfl
  | some l =>
      cases right with
      | none => cases hl : l.outline <;> simp [connect, outlineOf, hl]
      | some r => rcases h with rfl | rfl <;> rfl

/-- The outline of what is left inside parentheses or under a sign. -/
theorem Expr.outlineOf_map {wrap : Expr → Expr}
    (hwrap : ∀ e, (wrap e).outline = e.outline.map wrap) (left : Option Expr) :
    Expr.outlineOf (left.map wrap) = (Expr.outlineOf left).map wrap := by
  cases left with
  | none => rfl
  | some e => exact hwrap e

/-! ### Tables of an outline -/

mutual

/-- Conditions do not matter for the tables of a query. -/
theorem Query.tables_outline : ∀ q : Query, q.outline.tables = q.tables
  | .mk _ commons body _ => by
      simp only [Query.outline, Query.tables, CommonTable.allTables_outlineEach commons,
        SetExpr.tables_outline body]

theorem CommonTable.allTables_outlineEach : ∀ commons : List CommonTable,
    CommonTable.allTables (CommonTable.outlineEach commons) = CommonTable.allTables commons
  | [] => rfl
  | c :: rest => by
      simp only [CommonTable.outlineEach, CommonTable.allTables, CommonTable.tables_outline c,
        CommonTable.allTables_outlineEach rest]

theorem CommonTable.tables_outline : ∀ c : CommonTable, c.outline.tables = c.tables
  | .mk _ _ query _ => Query.tables_outline query

theorem SetExpr.tables_outline : ∀ body : SetExpr, body.outline.tables = body.tables
  | .select select => Select.tables_outline select
  | .query query => Query.tables_outline query
  | .combine _ left right => by
      simp only [SetExpr.outline, SetExpr.tables, SetExpr.tables_outline left,
        SetExpr.tables_outline right]
  | .other _ => rfl

theorem Select.tables_outline : ∀ select : Select, select.outline.tables = select.tables
  | .mk _ _ source _ _ _ => TableTree.allTables_outlineEach source

theorem TableTree.allTables_outlineEach : ∀ source : List TableTree,
    TableTree.allTables (TableTree.outlineEach source) = TableTree.allTables source
  | [] => rfl
  | t :: rest => by
      simp only [TableTree.outlineEach, TableTree.allTables, TableTree.tables_outline t,
        TableTree.allTables_outlineEach rest]

theorem TableTree.tables_outline : ∀ t : TableTree, t.outline.tables = t.tables
  | .mk relation joins => by
      simp only [TableTree.outline, TableTree.tables, TableFactor.tables_outline relation,
        Join.allTables_outlineEach joins]

theorem Join.allTables_outlineEach : ∀ joins : List Join,
    Join.allTables (Join.outlineEach joins) = Join.allTables joins
  | [] => rfl
  | j :: rest => by
      simp only [Join.outlineEach, Join.allTables, Join.tables_outline j,
        Join.allTables_outlineEach rest]

theorem Join.tables_outline : ∀ j : Join, j.outline.tables = j.tables
  | .mk _ relation _ => TableFactor.tables_outline relation

theorem TableFactor.tables_outline : ∀ t : TableFactor, t.outline.tables = t.tables
  | .table _ _ _ _ => rfl
  | .derived _ query _ => Query.tables_outline query
  | .joined tree _ => TableTree.tables_outline tree
  | .other _ _ _ => rfl

end

/-- Conditions do not matter for the tables of a statement. -/
theorem Statement.tables_outline (s : Statement) : s.outline.tables = s.tables := by
  cases s with
  | query q => exact Query.tables_outline q
  | other text => rfl

/-! ### Outlines after extraction -/

section

variable (w : Whitelist)

/-- A leaf that may be taken as a whole has no outline, taken or not. -/
theorem Expr.outlineOf_pruneLeaf {e : Expr} (h : e.outline = none) (takes : Bool) :
    Expr.outlineOf (e.pruneLeaf w takes).1 = none := by
  unfold pruneLeaf
  cases takes with
  | false => exact h
  | true =>
      cases e.binding? w with
      | none => exact h
      | some b => rfl

mutual

/-- Pruning keeps the outline of a condition. -/
theorem Expr.outline_prune : ∀ (e : Expr) (takes : Bool),
    Expr.outlineOf (e.prune w takes).1 = e.outline
  | .binary .and left right, takes => by
      rw [Expr.prune_connective w (Or.inl rfl), Expr.outlineOf_connect (Or.inl rfl),
        Expr.outline_prune left takes, Expr.outline_prune right takes, Expr.outline]
  | .binary .or left right, takes => by
      rw [Expr.prune_connective w (Or.inr rfl), Expr.outlineOf_connect (Or.inr rfl),
        Expr.outline_prune left takes, Expr.outline_prune right takes, Expr.outline]
  | .nested inner, takes => by
      have hinner := Expr.outline_prune inner takes
      rw [Expr.prune, Expr.outline, Expr.outlineOf_map fun _ => rfl, hinner]
  | .unary op operand, _ => by
      have hoperand := Expr.outline_prune operand false
      rw [Expr.prune, Expr.outline, Expr.outlineOf_map fun _ => rfl, hoperand]
  | .subquery query, _ => by
      simp only [Expr.prune, Expr.outlineOf, Expr.outline, Query.outline_extract query]
  | .existence query negated, _ => by
      simp only [Expr.prune, Expr.outlineOf, Expr.outline, Query.outline_extract query]
  | .binary .eq _ _, takes => Expr.outlineOf_pruneLeaf w rfl takes
  | .inList _ _ _, takes => Expr.outlineOf_pruneLeaf w rfl takes
  | .binary (.other _) _ _, _ => rfl
  | .ident _, _ => rfl
  | .literal _, _ => rfl
  | .compound _, _ => rfl
  | .call _, _ => rfl
  | .other _, _ => rfl

theorem Expr.outlineOf_pruneSelection : ∀ clause : Option Expr,
    Expr.outlineOf (Expr.pruneSelection w clause).1 = Expr.outlineOf clause
  | none => rfl
  | some e => Expr.outline_prune e true

/-- Extraction keeps the outline of a query. -/
theorem Query.outline_extract : ∀ q : Query, (q.extract w).1.outline = q.outline
  | .mk _ commons body _ => by
      simp only [Query.extract, Query.outline, CommonTable.outlineEach_extractAll commons,
        SetExpr.outline_extract body]

theorem CommonTable.outlineEach_extractAll : ∀ commons : List CommonTable,
    CommonTable.outlineEach (CommonTable.extractAll w commons).1 = CommonTable.outlineEach commons
  | [] => rfl
  | c :: rest => by
      simp only [CommonTable.extractAll, CommonTable.outlineEach, CommonTable.outline_extract c,
        CommonTable.outlineEach_extractAll rest]

theorem CommonTable.outline_extract : ∀ c : CommonTable, (c.extract w).1.outline = c.outline
  | .mk _ _ query _ => by
      simp only [CommonTable.extract, CommonTable.outline, Query.outline_extract query]

theorem SetExpr.outline_extract : ∀ body : SetExpr, (body.extract w).1.outline = body.outline
  | .select select => by
      simp only [SetExpr.extract, SetExpr.outline, Select.outline_extract select]
  | .query query => by simp only [SetExpr.extract, SetExpr.outline, Query.outline_extract query]
  | .combine _ left right => by
      simp only [SetExpr.extract, SetExpr.outline, SetExpr.outline_extract left,
        SetExpr.outline_extract right]
  | .other _ => rfl

theorem Select.outline_extract : ∀ select : Select,
    (select.extract w).1.outline = select.outline
  | .mk _ _ source _ selection _ => by
      simp only [Select.extract, Select.outline, TableTree.outlineEach_extractAll source,
        Expr.outlineOf_pruneSelection selection]

theorem TableTree.outlineEach_extractAll : ∀ source : List TableTree,
    TableTree.outlineEach (TableTree.extractAll w source).1 = TableTree.outlineEach source
  | [] => rfl
  | t :: rest => by
      simp only [TableTree.extractAll, TableTree.outlineEach, TableTree.outline_extract t,
        TableTree.outlineEach_extractAll rest]

theorem TableTree.outline_extract : ∀ t : TableTree, (t.extract w).1.outline = t.outline
  | .mk relation joins => by
      simp only [TableTree.extract, TableTree.outline, TableFactor.outline_extract relation,
        Join.outlineEach_extractAll joins]

theorem Join.outlineEach_extractAll : ∀ joins : List Join,
    Join.outlineEach (Join.extractAll w joins).1 = Join.outlineEach joins
  | [] => rfl
  | j :: rest => by
      simp only [Join.extractAll, Join.outlineEach, Join.outline_extract j,
        Join.outlineEach_extractAll rest]

theorem Join.outline_extract : ∀ j : Join, (j.extract w).1.outline = j.outline
  | .mk _ relation _ => by
      simp only [Join.extract, Join.outline, TableFactor.outline_extract relation]

theorem TableFactor.outline_extract : ∀ t : TableFactor, (t.extract w).1.outline = t.outline
  | .table _ _ _ _ => rfl
  | .derived _ query _ => by
      simp only [TableFactor.extract, TableFactor.outline, Query.outline_extract query]
  | .joined tree _ => by
      simp only [TableFactor.extract, TableFactor.outline, TableTree.outline_extract tree]
  | .other _ _ _ => rfl

end

end

/-- **Extraction changes the conditions of clauses only.**  A statement and its residual statement
are equal without these conditions, at every depth, and read the same tables under the same second
names in the same order; a statement that is no query stays as it is and has no binding. -/
theorem Statement.extract_keeps_outline (w : Whitelist) (s : Statement) :
    (s.extract w).1.outline = s.outline ∧
      (s.extract w).1.tables = s.tables ∧
      ∀ text, (Statement.other text).extract w = (.other text, []) := by
  have houtline : (s.extract w).1.outline = s.outline := by
    cases s with
    | query q => exact congrArg Statement.query (Query.outline_extract w q)
    | other text => rfl
  have htables : (s.extract w).1.tables = s.tables :=
    calc (s.extract w).1.tables
      _ = (s.extract w).1.outline.tables := (Statement.tables_outline _).symm
      _ = s.outline.tables := by rw [houtline]
      _ = s.tables := Statement.tables_outline s
  exact ⟨houtline, htables, fun text => rfl⟩

end Sql

end Pushdown
