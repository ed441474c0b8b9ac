/-
**Residual statements hold no bindings.**

Dropping connectives and taking leaves out brings no new leaf to the surface: a statement without
its bindings has no binding left to take.

Main results:

* `Sql.Query.residual_bindings` — no visited leaf of a residual query is a binding;
* `Sql.extractAll_bindings` — the bindings of several statements;
* `Sql.extractAll_residual` — residual statements have no bindings.
-/

import Pushdown.Proofs.Binding.Extraction

set_option autoImplicit false

namespace Pushdown

namespace Sql

section

variable (w : Whitelist)

/-- The leaves of a connective of what is left of its two sides. -/
theorem Expr.visitedOf_connect {op : Operator} (h : op.IsConnective) (left right : Option Expr) :
    Expr.visitedOf (connect op left right) = Expr.visitedOf left ++ Expr.visitedOf right := by
  cases left with
  | none => rfl
  | some l =>
      cases right with
      | none => simp [connect, Expr.visitedOf]
      | some r => rcases h with rfl | rfl <;> simp [connect, Expr.visitedOf, Expr.visited]

mutual

/-- No leaf of a pruned condition is a binding. -/
theorem Expr.prune_residual : ∀ e : Expr,
    (Expr.visitedOf (e.prune w true).1).filterMap (Expr.binding? w) = []
  | .binary .and left right => by
      rw [Expr.prune_connective w (Or.inl rfl), Expr.visitedOf_connect (Or.inl rfl),
        List.filterMap_append, Expr.prune_residual left, Expr.prune_residual right,
        List.append_nil]
  | .binary .or left right => by
      rw [Expr.prune_connective w (Or.inr rfl), Expr.visitedOf_connect (Or.inr rfl),
        List.filterMap_append, Expr.prune_residual left, Expr.prune_residual right,
        List.append_nil]
  | .nested inner => by
      have hinner := Expr.prune_residual inner
      simp only [Expr.prune]
      cases h : (inner.prune w true).1 with
      | none => rfl
      | some r =>
          rw [h] at hinner
          exact hinner
  | .unary op operand => by
      rw [Expr.prune_leaf w rfl]
      simp only [Expr.binding?, Expr.prune_false, Expr.mapQueries, Expr.visitedOf, Expr.visited]
      exact Expr.mapQueries_residual operand
  | .subquery query => by
      simp only [Expr.prune, Expr.visitedOf, Expr.visited]
      exact Query.residual_bindings query
  | .existence query _ => by
      simp only [Expr.prune, Expr.visitedOf, Expr.visited]
      exact Query.residual_bindings query
  | .binary .eq left right => by
      rw [Expr.prune_leaf w rfl]
      cases h : (Expr.binary .eq left right).binding? w with
      | none => simp [Expr.prune_false, Expr.mapQueries, Expr.visitedOf, Expr.visited, h]
      | some b => rfl
  | .inList operand items negated => by
      rw [Expr.prune_leaf w rfl]
      cases h : (Expr.inList operand items negated).binding? w with
      | none => simp [Expr.prune_false, Expr.mapQueries, Expr.visitedOf, Expr.visited, h]
      | some b => rfl
  | .binary (.other _) _ _ => rfl
  | .ident _ => rfl
  | .literal _ => rfl
  | .compound _ => rfl
  | .call _ => rfl
  | .other _ => rfl

/-- No leaf of a residual query inside a condition is a binding. -/
theorem Expr.mapQueries_residual : ∀ e : Expr,
    (e.mapQueries (Query.residual w)).visitedInside.filterMap (Expr.binding? w) = []
  | .binary .and left right => by
      simp only [Expr.mapQueries, Expr.visitedInside, List.filterMap_append,
        Expr.mapQueries_residual left, Expr.mapQueries_residual right, List.append_nil]
  | .binary .or left right => by
      simp only [Expr.mapQueries, Expr.visitedInside, List.filterMap_append,
        Expr.mapQueries_residual left, Expr.mapQueries_residual right, List.append_nil]
  | .nested inner => Expr.mapQueries_residual inner
  | .unary _ operand => Expr.mapQueries_residual operand
  | .subquery query => Query.residual_bindings query
  | .existence query _ => Query.residual_bindings query
  | .binary .eq _ _ => rfl
  | .inList _ _ _ => rfl
  | .binary (.other _) _ _ => rfl
  | .ident _ => rfl
  | .literal _ => rfl
  | .compound _ => rfl
  | .call _ => rfl
  | .other _ => rfl

theorem Expr.pruneSelection_residual : ∀ clause : Option Expr,
    (Expr.visitedOf (Expr.pruneSelection w clause).1).filterMap (Expr.binding? w) = []
  | none => rfl
  | some e => Expr.prune_residual e

/-- No visited leaf of a residual query is a binding. -/
theorem Query.residual_bindings : ∀ q : Query,
    (q.extract w).1.visited.filterMap (Expr.binding? w) = []
  | .mk _ commons body _ => by
      simp only [Query.extract, Query.visited, List.filterMap_append,
        CommonTable.residual_bindings_all commons, SetExpr.residual_bindings body,
        List.append_nil]

theorem CommonTable.residual_bindings_all : ∀ commons : List CommonTable,
    (CommonTable.visitedOfAll (CommonTable.extractAll w commons).1).filterMap
      (Expr.binding? w) = []
  | [] => rfl
  | c :: rest => by
      simp only [CommonTable.extractAll, CommonTable.visitedOfAll, List.filterMap_append,
        CommonTable.residual_bindings c, CommonTable.residual_bindings_all rest, List.append_nil]

theorem CommonTable.residual_bindings : ∀ c : CommonTable,
    (c.extract w).1.visited.filterMap (Expr.binding? w) = []
  | .mk _ _ query _ => Query.residual_bindings query

theorem SetExpr.residual_bindings : ∀ body : SetExpr,
    (body.extract w).1.visited.filterMap (Expr.binding? w) = []
  | .select select => Select.residual_bindings select
  | .query query => Query.residual_bindings query
  | .combine _ left right => by
      simp only [SetExpr.extract, SetExpr.visited, List.filterMap_append,
        SetExpr.residual_bindings left, SetExpr.residual_bindings right, List.append_nil]
  | .other _ => rfl

theorem Select.residual_bindings : ∀ select : Select,
    (select.extract w).1.visited.filterMap (Expr.binding? w) = []
  | .mk _ _ source _ selection _ => by
      simp only [Select.extract, Select.visited, List.filterMap_append,
        TableTree.residual_bindings_all source, Expr.pruneSelection_residual selection,
        List.append_nil]

theorem TableTree.residual_bindings_all : ∀ source : List TableTree,
    (TableTree.visitedOfAll (TableTree.extractAll w source).1).filterMap (Expr.binding? w) = []
  | [] => rfl
  | t :: rest => by
      simp only [TableTree.extractAll, TableTree.visitedOfAll, List.filterMap_append,
        TableTree.residual_bindings t, TableTree.residual_bindings_all rest, List.append_nil]

theorem TableTree.residual_bindings : ∀ t : TableTree,
    (t.extract w).1.visited.filterMap (Expr.binding? w) = []
  | .mk relation joins => by
      simp only [TableTree.extract, TableTree.visited, List.filterMap_append,
        TableFactor.residual_bindings relation, Join.residual_bindings_all joins,
        List.append_nil]

theorem Join.residual_bindings_all : ∀ joins : List Join,
    (Join.visitedOfAll (Join.extractAll w joins).1).filterMap (Expr.binding? w) = []
  | [] => rfl
  | j :: rest => by
      simp only [Join.extractAll, Join.visitedOfAll, List.filterMap_append,
        Join.residual_bindings j, Join.residual_bindings_all rest, List.append_nil]

theorem Join.residual_bindings : ∀ j : Join,
    (j.extract w).1.visited.filterMap (Expr.binding? w) = []
  | .mk _ relation _ => TableFactor.residual_bindings relation

theorem TableFactor.residual_bindings : ∀ t : TableFactor,
    (t.extract w).1.visited.filterMap (Expr.binding? w) = []
  | .table _ _ _ _ => rfl
  | .derived _ query _ => Query.residual_bindings query
  | .joined tree _ => TableTree.residual_bindings tree
  | .other _ _ _ => rfl

end

/-- The bindings of a statement are its visited leaves that are bindings. -/
theorem Statement.extract_bindings (s : Statement) :
    (s.extract w).2 = s.visited.filterMap (Expr.binding? w) := by
  cases s with
  | query q => exact Query.extract_bindings w q
  | other text => rfl

theorem Statement.residual_bindings (s : Statement) :
    (s.extract w).1.visited.filterMap (Expr.binding? w) = [] := by
  cases s with
  | query q => exact Query.residual_bindings w q
  | other text => rfl

/-- Nothing is left to take from a residual statement. -/
theorem Statement.extract_residual_bindings (s : Statement) :
    ((s.extract w).1.extract w).2 = [] := by
  rw [Statement.extract_bindings, Statement.residual_bindings]

/-- The bindings of several statements are their visited leaves that are bindings. -/
theorem extractAll_bindings (statements : List Statement) :
    (extractAll w statements).2 =
      (statements.flatMap Statement.visited).filterMap (Expr.binding? w) := by
  induction statements with
  | nil => rfl
  | cons s rest ih =>
      simp only [extractAll, List.flatMap_cons, List.filterMap_append, ih,
        Statement.extract_bindings]

/-- Residual statements have no bindings. -/
theorem extractAll_residual (statements : List Statement) :
    ((extractAll w statements).1.flatMap Statement.visited).filterMap (Expr.binding? w) = [] := by
  induction statements with
  | nil => rfl
  | cons s rest ih =>
      simp only [extractAll, List.flatMap_cons, List.filterMap_append, ih,
        Statement.residual_bindings, List.append_nil]

end

end Sql

end Pushdown
