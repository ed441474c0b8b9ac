/-
**Exact extraction.**

A query is visited in a fixed order: common tables, the tables of a select from left to right,
through queries in place of tables and through joins, and then the clause of the select itself; the
left side of a set operation goes first.  The bindings of a statement are the leaves visited that
are bindings, in that order, and every clause keeps exactly its other leaves.

Main definitions:

* `Sql.Query.selections` — the clauses of a query in the order of the visit;
* `Sql.Query.visited` — the leaves of a query in the order of the visit, those of queries inside a
  leaf directly behind it;
* `Sql.Residue` — what a clause keeps.

Main results:

* `Sql.Query.extract_bindings` — the bindings are the visited leaves that are bindings;
* `Sql.Query.extract_selections` — every clause is pruned on its own;
* `Sql.Statement.extract_exact` — **extraction takes the bindings and nothing else**.
-/

import Mathlib.Data.List.Forall2
import Pushdown.Proofs.Binding.Condition

set_option autoImplicit false

namespace Pushdown

namespace Sql

/-! ### The order of the visit -/

mutual

/-- The clauses of a query, absent ones included. -/
def Query.selections : Query → List (Option Expr)
  | .mk _ commons body _ => CommonTable.selectionsOfAll commons ++ body.selections

/-- The clauses of common tables. -/
def CommonTable.selectionsOfAll : List CommonTable → List (Option Expr)
  | [] => []
  | c :: rest => c.selections ++ CommonTable.selectionsOfAll rest

/-- The clauses of a common table. -/
def CommonTable.selections : CommonTable → List (Option Expr)
  | .mk _ _ query _ => query.selections

/-- The clauses of a query body. -/
def SetExpr.selections : SetExpr → List (Option Expr)
  | .select select => select.selections
  | .query query => query.selections
  | .combine _ left right => left.selections ++ right.selections
  | .other _ => []

/-- The clauses of the tables of a select, and then its own. -/
def Select.selections : Select → List (Option Expr)
  | .mk _ _ source _ selection _ => TableTree.selectionsOfAll source ++ [selection]

/-- The clauses of tables with their joins. -/
def TableTree.selectionsOfAll : List TableTree → List (Option Expr)
  | [] => []
  | t :: rest => t.selections ++ TableTree.selectionsOfAll rest

/-- The clauses of a table with its joins. -/
def TableTree.selections : TableTree → List (Option Expr)
  | .mk relation joins => relation.selections ++ Join.selectionsOfAll joins

/-- The clauses of joins. -/
def Join.selectionsOfAll : List Join → List (Option Expr)
  | [] => []
  | j :: rest => j.selections ++ Join.selectionsOfAll rest

/-- The clauses of a join. -/
def Join.selections : Join → List (Option Expr)
  | .mk _ relation _ => relation.selections

/-- The clauses of a table. -/
def TableFactor.selections : TableFactor → List (Option Expr)
  | .table _ _ _ _ => []
  | .derived _ query _ => query.selections
  | .joined tree _ => tree.selections
  | .other _ _ _ => []

end

mutual

/-- The leaves of a condition, those of queries inside a leaf directly behind it. -/
def Expr.visited : Expr → List Expr
  | .binary .and left right => left.visited ++ right.visited
  | .binary .or left right => left.visited ++ right.visited
  | .nested inner => inner.visited
  | .unary op operand => .unary op operand :: operand.visitedInside
  | .subquery query => .subquery query :: query.visited
  | .existence query negated => .existence query negated :: query.visited
  | e => [e]

/-- The leaves of the queries that a condition is made of. -/
def Expr.visitedInside : Expr → List Expr
  | .binary .and left right => left.visitedInside ++ right.visitedInside
  | .binary .or left right => left.visitedInside ++ right.visitedInside
  | .nested inner => inner.visitedInside
  | .unary _ operand => operand.visitedInside
  | .subquery query => query.visited
  | .existence query _ => query.visited
  | _ => []

/-- The leaves of a clause. -/
def Expr.visitedOf : Option Expr → List Expr
  | none => []
  | some e => e.visited

/-- The leaves of a query. -/
def Query.visited : Query → List Expr
  | .mk _ commons body _ => CommonTable.visitedOfAll commons ++ body.visited

/-- The leaves of common tables. -/
def CommonTable.visitedOfAll : List CommonTable → List Expr
  | [] => []
  | c :: rest => c.visited ++ CommonTable.visitedOfAll rest

/-- The leaves of a common table. -/
def CommonTable.visited : CommonTable → List Expr
  | .mk _ _ query _ => query.visited

/-- The leaves of a query body. -/
def SetExpr.visited : SetExpr → List Expr
  | .select select => select.visited
  | .query query => query.visited
  | .combine _ left right => left.visited ++ right.visited
  | .other _ => []

/-- The leaves of the tables of a select, and then those of its own clause. -/
def Select.visited : Select → List Expr
  | .mk _ _ source _ selection _ => TableTree.visitedOfAll source ++ Expr.visitedOf selection

/-- The leaves of tables with their joins. -/
def TableTree.visitedOfAll : List TableTree → List Expr
  | [] => []
  | t :: rest => t.visited ++ TableTree.visitedOfAll rest

/-- The leaves of a table with its joins. -/
def TableTree.visited : TableTree → List Expr
  | .mk relation joins => relation.visited ++ Join.visitedOfAll joins

/-- The leaves of joins. -/
def Join.visitedOfAll : List Join → List Expr
  | [] => []
  | j :: rest => j.visited ++ Join.visitedOfAll rest

/-- The leaves of a join. -/
def Join.visited : Join → List Expr
  | .mk _ relation _ => relation.visited

/-- The leaves of a table. -/
def TableFactor.visited : TableFactor → List Expr
  | .table _ _ _ _ => []
  | .derived _ query _ => query.visited
  | .joined tree _ => tree.visited
  | .other _ _ _ => []

end

/-- The clauses of a statement; only queries have some. -/
def Statement.selections : Statement → List (Option Expr)
  | query q => q.selections
  | other _ => []

/-- The leaves of a statement; only queries have some. -/
def Statement.visited : Statement → List Expr
  | query q => q.visited
  | other _ => []

/-! ### Bindings in the order of the visit -/

section

variable (w : Whitelist)

mutual

/-- The bindings of a condition are its visited leaves that are bindings. -/
theorem Expr.prune_bindings : ∀ e : Expr,
    (e.prune w true).2 = e.visited.filterMap (Expr.binding? w)
  | .binary .and left right => by
      simp only [Expr.prune, Expr.visited, List.filterMap_append, Expr.prune_bindings left,
        Expr.prune_bindings right]
  | .binary .or left right => by
      simp only [Expr.prune, Expr.visited, List.filterMap_append, Expr.prune_bindings left,
        Expr.prune_bindings right]
  | .nested inner => by simp only [Expr.prune, Expr.visited, Expr.prune_bindings inner]
  | .unary op operand => by
      simp only [Expr.prune, Expr.visited, Expr.prune_false_bindings operand]
      rfl
  | .subquery query => by
      simp only [Expr.prune, Expr.visited, Query.extract_bindings query]
      rfl
  | .existence query negated => by
      simp only [Expr.prune, Expr.visited, Query.extract_bindings query]
      rfl
  | .binary .eq left right => by
      simp only [Expr.prune, Expr.pruneLeaf, Expr.visited, if_true]
      cases h : (Expr.binary .eq left right).binding? w <;> simp [h]
  | .inList operand items negated => by
      simp only [Expr.prune, Expr.pruneLeaf, Expr.visited, if_true]
      cases h : (Expr.inList operand items negated).binding? w <;> simp [h]
  | .binary (.other _) _ _ => rfl
  | .ident _ => rfl
  | .literal _ => rfl
  | .compound _ => rfl
  | .call _ => rfl
  | .other _ => rfl

/-- Where nothing may be taken, the bindings are those of the queries inside. -/
theorem Expr.prune_false_bindings : ∀ e : Expr,
    (e.prune w false).2 = e.visitedInside.filterMap (Expr.binding? w)
  | .binary .and left right => by
      simp only [Expr.prune, Expr.visitedInside, List.filterMap_append,
        Expr.prune_false_bindings left,
        Expr.prune_false_bindings right]
  | .binary .or left right => by
      simp only [Expr.prune, Expr.visitedInside, List.filterMap_append,
        Expr.prune_false_bindings left,
        Expr.prune_false_bindings right]
  | .nested inner => by simp only [Expr.prune, Expr.visitedInside, Expr.prune_false_bindings inner]
  | .unary _ operand => by
      simp only [Expr.prune, Expr.visitedInside, Expr.prune_false_bindings operand]
  | .subquery query => by simp only [Expr.prune, Expr.visitedInside, Query.extract_bindings query]
  | .existence query _ => by
      simp only [Expr.prune, Expr.visitedInside, Query.extract_bindings query]
  | .binary .eq _ _ => rfl
  | .inList _ _ _ => rfl
  | .binary (.other _) _ _ => rfl
  | .ident _ => rfl
  | .literal _ => rfl
  | .compound _ => rfl
  | .call _ => rfl
  | .other _ => rfl

theorem Expr.pruneSelection_bindings : ∀ clause : Option Expr,
    (Expr.pruneSelection w clause).2 = (Expr.visitedOf clause).filterMap (Expr.binding? w)
  | none => rfl
  | some e => Expr.prune_bindings e

/-- The bindings of a query are its visited leaves that are bindings. -/
theorem Query.extract_bindings : ∀ q : Query,
    (q.extract w).2 = q.visited.filterMap (Expr.binding? w)
  | .mk _ commons body _ => by
      simp only [Query.extract, Query.visited, List.filterMap_append,
        CommonTable.extractAll_bindings commons, SetExpr.extract_bindings body]

theorem CommonTable.extractAll_bindings : ∀ commons : List CommonTable,
    (CommonTable.extractAll w commons).2 =
      (CommonTable.visitedOfAll commons).filterMap (Expr.binding? w)
  | [] => rfl
  | c :: rest => by
      simp only [CommonTable.extractAll, CommonTable.visitedOfAll, List.filterMap_append,
        CommonTable.extract_bindings c, CommonTable.extractAll_bindings rest]

theorem CommonTable.extract_bindings : ∀ c : CommonTable,
    (c.extract w).2 = c.visited.filterMap (Expr.binding? w)
  | .mk _ _ query _ => by
      simp only [CommonTable.extract, CommonTable.visited, Query.extract_bindings query]

theorem SetExpr.extract_bindings : ∀ body : SetExpr,
    (body.extract w).2 = body.visited.filterMap (Expr.binding? w)
  | .select select => by
      simp only [SetExpr.extract, SetExpr.visited, Select.extract_bindings select]
  | .query query => by simp only [SetExpr.extract, SetExpr.visited, Query.extract_bindings query]
  | .combine _ left right => by
      simp only [SetExpr.extract, SetExpr.visited, List.filterMap_append,
        SetExpr.extract_bindings left,
        SetExpr.extract_bindings right]
  | .other _ => rfl

theorem Select.extract_bindings : ∀ select : Select,
    (select.extract w).2 = select.visited.filterMap (Expr.binding? w)
  | .mk _ _ source _ selection _ => by
      simp only [Select.extract, Select.visited, List.filterMap_append,
        TableTree.extractAll_bindings source,
        Expr.pruneSelection_bindings selection]

theorem TableTree.extractAll_bindings : ∀ source : List TableTree,
    (TableTree.extractAll w source).2 =
      (TableTree.visitedOfAll source).filterMap (Expr.binding? w)
  | [] => rfl
  | t :: rest => by
      simp only [TableTree.extractAll, TableTree.visitedOfAll, List.filterMap_append,
        TableTree.extract_bindings t, TableTree.extractAll_bindings rest]

theorem TableTree.extract_bindings : ∀ t : TableTree,
    (t.extract w).2 = t.visited.filterMap (Expr.binding? w)
  | .mk relation joins => by
      simp only [TableTree.extract, TableTree.visited, List.filterMap_append,
        TableFactor.extract_bindings relation,
        Join.extractAll_bindings joins]

theorem Join.extractAll_bindings : ∀ joins : List Join,
    (Join.extractAll w joins).2 = (Join.visitedOfAll joins).filterMap (Expr.binding? w)
  | [] => rfl
  | j :: rest => by
      simp only [Join.extractAll, Join.visitedOfAll, List.filterMap_append,
        Join.extract_bindings j, Join.extractAll_bindings rest]

theorem Join.extract_bindings : ∀ j : Join,
    (j.extract w).2 = j.visited.filterMap (Expr.binding? w)
  | .mk _ relation _ => by
      simp only [Join.extract, Join.visited, TableFactor.extract_bindings relation]

theorem TableFactor.extract_bindings : ∀ t : TableFactor,
    (t.extract w).2 = t.visited.filterMap (Expr.binding? w)
  | .table _ _ _ _ => rfl
  | .derived _ query _ => by
      simp only [TableFactor.extract, TableFactor.visited, Query.extract_bindings query]
  | .joined tree _ => by
      simp only [TableFactor.extract, TableFactor.visited, TableTree.extract_bindings tree]
  | .other _ _ _ => rfl

end

/-! ### What the clauses keep -/

/-- A clause without its bindings. -/
def Expr.residualOf (clause : Option Expr) : Option Expr := (Expr.pruneSelection w clause).1

mutual

/-- Every clause of a query is pruned on its own. -/
theorem Query.extract_selections : ∀ q : Query,
    (q.extract w).1.selections = q.selections.map (Expr.residualOf w)
  | .mk _ commons body _ => by
      simp only [Query.extract, Query.selections, List.map_append,
        CommonTable.extractAll_selections commons, SetExpr.extract_selections body]

theorem CommonTable.extractAll_selections : ∀ commons : List CommonTable,
    CommonTable.selectionsOfAll (CommonTable.extractAll w commons).1 =
      (CommonTable.selectionsOfAll commons).map (Expr.residualOf w)
  | [] => rfl
  | c :: rest => by
      simp only [CommonTable.extractAll, CommonTable.selectionsOfAll, List.map_append,
        CommonTable.extract_selections c, CommonTable.extractAll_selections rest]

theorem CommonTable.extract_selections : ∀ c : CommonTable,
    (c.extract w).1.selections = c.selections.map (Expr.residualOf w)
  | .mk _ _ query _ => by
      simp only [CommonTable.extract, CommonTable.selections, Query.extract_selections query]

theorem SetExpr.extract_selections : ∀ body : SetExpr,
    (body.extract w).1.selections = body.selections.map (Expr.residualOf w)
  | .select select => by
      simp only [SetExpr.extract, SetExpr.selections, Select.extract_selections select]
  | .query query => by
      simp only [SetExpr.extract, SetExpr.selections, Query.extract_selections query]
  | .combine _ left right => by
      simp only [SetExpr.extract, SetExpr.selections, List.map_append,
        SetExpr.extract_selections left, SetExpr.extract_selections right]
  | .other _ => rfl

theorem Select.extract_selections : ∀ select : Select,
    (select.extract w).1.selections = select.selections.map (Expr.residualOf w)
  | .mk _ _ source _ _ _ => by
      simp only [Select.extract, Select.selections, List.map_append,
        TableTree.extractAll_selections source]
      rfl

theorem TableTree.extractAll_selections : ∀ source : List TableTree,
    TableTree.selectionsOfAll (TableTree.extractAll w source).1 =
      (TableTree.selectionsOfAll source).map (Expr.residualOf w)
  | [] => rfl
  | t :: rest => by
      simp only [TableTree.extractAll, TableTree.selectionsOfAll, List.map_append,
        TableTree.extract_selections t, TableTree.extractAll_selections rest]

theorem TableTree.extract_selections : ∀ t : TableTree,
    (t.extract w).1.selections = t.selections.map (Expr.residualOf w)
  | .mk relation joins => by
      simp only [TableTree.extract, TableTree.selections, List.map_append,
        TableFactor.extract_selections relation, Join.extractAll_selections joins]

theorem Join.extractAll_selections : ∀ joins : List Join,
    Join.selectionsOfAll (Join.extractAll w joins).1 =
      (Join.selectionsOfAll joins).map (Expr.residualOf w)
  | [] => rfl
  | j :: rest => by
      simp only [Join.extractAll, Join.selectionsOfAll, List.map_append,
        Join.extract_selections j, Join.extractAll_selections rest]

theorem Join.extract_selections : ∀ j : Join,
    (j.extract w).1.selections = j.selections.map (Expr.residualOf w)
  | .mk _ relation _ => by
      simp only [Join.extract, Join.selections, TableFactor.extract_selections relation]

theorem TableFactor.extract_selections : ∀ t : TableFactor,
    (t.extract w).1.selections = t.selections.map (Expr.residualOf w)
  | .table _ _ _ _ => rfl
  | .derived _ query _ => by
      simp only [TableFactor.extract, TableFactor.selections, Query.extract_selections query]
  | .joined tree _ => by
      simp only [TableFactor.extract, TableFactor.selections, TableTree.extract_selections tree]
  | .other _ _ _ => rfl

end

/-- What a clause keeps: nothing if every leaf is a binding, and otherwise the other leaves in
order, under the connectives that still have two sides, changed in their queries only. -/
structure Residue (before after : Option Expr) : Prop where
  absent : after = none ↔ ∀ leaf ∈ Expr.leavesOf before, ∃ b, IsBinding w leaf.2 b
  leaves :
    let kept := (Expr.leavesOf before).filter fun leaf => (leaf.2.binding? w).isNone
    Expr.leavesOf after = kept.map (residualLeaf w kept)

theorem residue_residualOf (clause : Option Expr) :
    Residue w clause (Expr.residualOf w clause) := by
  cases clause with
  | none => exact ⟨by simp [Expr.residualOf, Expr.pruneSelection, Expr.leavesOf], rfl⟩
  | some e => exact ⟨Expr.prune_eq_none_iff w e, Expr.leavesAt_prune w e⟩

end

/-- **Exact extraction.**  The bindings of a statement are its visited leaves that are bindings, in
the order of the visit, a leaf being a binding exactly if it compares or lists a name that belongs
to the request.  Every clause keeps the residue of its own leaves, and a statement that is no query
keeps everything. -/
theorem Statement.extract_exact (w : Whitelist) (s : Statement) :
    (s.extract w).2 = s.visited.filterMap (Expr.binding? w) ∧
      (∀ leaf b, leaf.binding? w = some b ↔ IsBinding w leaf b) ∧
      List.Forall₂ (Residue w) s.selections (s.extract w).1.selections ∧
      ∀ text, (Statement.other text).extract w = (.other text, []) := by
  refine ⟨?_, fun leaf b => Expr.binding?_eq_some_iff, ?_, fun text => rfl⟩
  · cases s with
    | query q => exact Query.extract_bindings w q
    | other text => rfl
  · cases s with
    | query q =>
        have hselections : ((Statement.query q).extract w).1.selections =
            q.selections.map (Expr.residualOf w) := Query.extract_selections w q
        rw [hselections, List.forall₂_map_right_iff]
        exact List.forall₂_same.2 fun clause _ => residue_residualOf w clause
    | other text => exact List.Forall₂.nil

end Sql

end Pushdown
