/-
**Equality of syntax trees.**

Two trees are equal if they have the same constructor and equal parts, so they can be compared one
node at a time.  What a text is read as can then be compared with what it was written from.

Main definitions:

* `Sql.Query.same` and its companions — the comparison of two trees.

Main results:

* `Sql.Query.same_iff` and its companions — the comparison decides equality.
-/

import Pushdown.Sql.Syntax

set_option autoImplicit false

namespace Pushdown

namespace Sql

mutual

/-- Whether two expressions are equal. -/
def Expr.same : Expr → Expr → Bool
  | .ident a, .ident b => a = b
  | .literal a, .literal b => a = b
  | .compound a, .compound b => a = b
  | .call a, .call b => a = b
  | .unary op a, .unary op' b => op = op' && a.same b
  | .binary op a c, .binary op' b d => op = op' && a.same b && c.same d
  | .nested a, .nested b => a.same b
  | .inList a as negated, .inList b bs negated' =>
      a.same b && Expr.sameEach as bs && negated == negated'
  | .existence q negated, .existence r negated' => q.same r && negated == negated'
  | .subquery q, .subquery r => q.same r
  | .other a, .other b => a = b
  | _, _ => false

/-- Whether two lists of expressions are equal. -/
def Expr.sameEach : List Expr → List Expr → Bool
  | [], [] => true
  | a :: as, b :: bs => a.same b && Expr.sameEach as bs
  | _, _ => false

/-- Whether two clauses are equal. -/
def Expr.sameSelection : Option Expr → Option Expr → Bool
  | none, none => true
  | some a, some b => a.same b
  | _, _ => false

/-- Whether two queries are equal. -/
def Query.same : Query → Query → Bool
  | .mk isRecursive commons body tail, .mk isRecursive' commons' body' tail' =>
      isRecursive == isRecursive' && CommonTable.sameEach commons commons' && body.same body' &&
        tail == tail'

/-- Whether two lists of common tables are equal. -/
def CommonTable.sameEach : List CommonTable → List CommonTable → Bool
  | [], [] => true
  | a :: as, b :: bs => a.same b && CommonTable.sameEach as bs
  | _, _ => false

/-- Whether two common tables are equal. -/
def CommonTable.same : CommonTable → CommonTable → Bool
  | .mk name mark query tail, .mk name' mark' query' tail' =>
      name == name' && mark == mark' && query.same query' && tail == tail'

/-- Whether two bodies are equal. -/
def SetExpr.same : SetExpr → SetExpr → Bool
  | .select a, .select b => a.same b
  | .query a, .query b => a.same b
  | .combine op a c, .combine op' b d => op == op' && a.same b && c.same d
  | .other a, .other b => a = b
  | _, _ => false

/-- Whether two selects are equal. -/
def Select.same : Select → Select → Bool
  | .mk fromFirst head source middle selection tail,
      .mk fromFirst' head' source' middle' selection' tail' =>
      fromFirst == fromFirst' && head == head' && TableTree.sameEach source source' &&
        middle == middle' && Expr.sameSelection selection selection' && tail == tail'

/-- Whether two lists of tables are equal. -/
def TableTree.sameEach : List TableTree → List TableTree → Bool
  | [], [] => true
  | a :: as, b :: bs => a.same b && TableTree.sameEach as bs
  | _, _ => false

/-- Whether two tables with their joins are equal. -/
def TableTree.same : TableTree → TableTree → Bool
  | .mk relation joins, .mk relation' joins' =>
      relation.same relation' && Join.sameEach joins joins'

/-- Whether two lists of joins are equal. -/
def Join.sameEach : List Join → List Join → Bool
  | [], [] => true
  | a :: as, b :: bs => a.same b && Join.sameEach as bs
  | _, _ => false

/-- Whether two joins are equal. -/
def Join.same : Join → Join → Bool
  | .mk kind relation constraint, .mk kind' relation' constraint' =>
      kind == kind' && relation.same relation' && constraint == constraint'

/-- Whether two tables are equal. -/
def TableFactor.same : TableFactor → TableFactor → Bool
  | .table name middle aliasName tail, .table name' middle' aliasName' tail' =>
      name == name' && middle == middle' && aliasName == aliasName' && tail == tail'
  | .derived lateral query aliasName, .derived lateral' query' aliasName' =>
      lateral == lateral' && query.same query' && aliasName == aliasName'
  | .joined tree aliasName, .joined tree' aliasName' => tree.same tree' && aliasName == aliasName'
  | .other text aliasName tail, .other text' aliasName' tail' =>
      text == text' && aliasName == aliasName' && tail == tail'
  | _, _ => false

end

/-- Whether two statements are equal. -/
def Statement.same : Statement → Statement → Bool
  | query a, query b => a.same b
  | other a, other b => a = b
  | _, _ => false

mutual

theorem Expr.same_iff : ∀ a b : Expr, a.same b = true ↔ a = b
  | .ident _, b => by cases b <;> simp [Expr.same]
  | .literal _, b => by cases b <;> simp [Expr.same]
  | .compound _, b => by cases b <;> simp [Expr.same]
  | .call _, b => by cases b <;> simp [Expr.same]
  | .unary _ operand, b => by
      cases b with
      | unary _ operand' => simp [Expr.same, Expr.same_iff operand operand']
      | _ => simp [Expr.same]
  | .binary _ left right, b => by
      cases b with
      | binary _ left' right' =>
          simp [Expr.same, Expr.same_iff left left', Expr.same_iff right right', and_assoc]
      | _ => simp [Expr.same]
  | .nested inner, b => by
      cases b with
      | nested inner' => simp [Expr.same, Expr.same_iff inner inner']
      | _ => simp [Expr.same]
  | .inList operand items _, b => by
      cases b with
      | inList operand' items' _ =>
          simp [Expr.same, Expr.same_iff operand operand', Expr.sameEach_iff items items',
            and_assoc]
      | _ => simp [Expr.same]
  | .existence query _, b => by
      cases b with
      | existence query' _ => simp [Expr.same, Query.same_iff query query']
      | _ => simp [Expr.same]
  | .subquery query, b => by
      cases b with
      | subquery query' => simp [Expr.same, Query.same_iff query query']
      | _ => simp [Expr.same]
  | .other _, b => by cases b <;> simp [Expr.same]

theorem Expr.sameEach_iff : ∀ as bs : List Expr, Expr.sameEach as bs = true ↔ as = bs
  | [], bs => by cases bs <;> simp [Expr.sameEach]
  | a :: as, bs => by
      cases bs with
      | nil => simp [Expr.sameEach]
      | cons b bs => simp [Expr.sameEach, Expr.same_iff a b, Expr.sameEach_iff as bs]

theorem Expr.sameSelection_iff : ∀ a b : Option Expr, Expr.sameSelection a b = true ↔ a = b
  | none, b => by cases b <;> simp [Expr.sameSelection]
  | some a, b => by
      cases b with
      | none => simp [Expr.sameSelection]
      | some b => simp [Expr.sameSelection, Expr.same_iff a b]

/-- The comparison of queries decides equality. -/
theorem Query.same_iff : ∀ a b : Query, a.same b = true ↔ a = b
  | .mk _ commons body _, .mk _ commons' body' _ => by
      simp [Query.same, CommonTable.sameEach_iff commons commons', SetExpr.same_iff body body',
        and_assoc]

theorem CommonTable.sameEach_iff :
    ∀ as bs : List CommonTable, CommonTable.sameEach as bs = true ↔ as = bs
  | [], bs => by cases bs <;> simp [CommonTable.sameEach]
  | a :: as, bs => by
      cases bs with
      | nil => simp [CommonTable.sameEach]
      | cons b bs =>
          simp [CommonTable.sameEach, CommonTable.same_iff a b, CommonTable.sameEach_iff as bs]

theorem CommonTable.same_iff : ∀ a b : CommonTable, a.same b = true ↔ a = b
  | .mk _ _ query _, .mk _ _ query' _ => by
      simp [CommonTable.same, Query.same_iff query query', and_assoc]

theorem SetExpr.same_iff : ∀ a b : SetExpr, a.same b = true ↔ a = b
  | .select select, b => by
      cases b with
      | select select' => simp [SetExpr.same, Select.same_iff select select']
      | _ => simp [SetExpr.same]
  | .query query, b => by
      cases b with
      | query query' => simp [SetExpr.same, Query.same_iff query query']
      | _ => simp [SetExpr.same]
  | .combine _ left right, b => by
      cases b with
      | combine _ left' right' =>
          simp [SetExpr.same, SetExpr.same_iff left left', SetExpr.same_iff right right',
            and_assoc]
      | _ => simp [SetExpr.same]
  | .other _, b => by cases b <;> simp [SetExpr.same]

theorem Select.same_iff : ∀ a b : Select, a.same b = true ↔ a = b
  | .mk _ _ source _ selection _, .mk _ _ source' _ selection' _ => by
      simp [Select.same, TableTree.sameEach_iff source source',
        Expr.sameSelection_iff selection selection', and_assoc]

theorem TableTree.sameEach_iff :
    ∀ as bs : List TableTree, TableTree.sameEach as bs = true ↔ as = bs
  | [], bs => by cases bs <;> simp [TableTree.sameEach]
  | a :: as, bs => by
      cases bs with
      | nil => simp [TableTree.sameEach]
      | cons b bs =>
          simp [TableTree.sameEach, TableTree.same_iff a b, TableTree.sameEach_iff as bs]

theorem TableTree.same_iff : ∀ a b : TableTree, a.same b = true ↔ a = b
  | .mk relation joins, .mk relation' joins' => by
      simp [TableTree.same, TableFactor.same_iff relation relation',
        Join.sameEach_iff joins joins']

theorem Join.sameEach_iff : ∀ as bs : List Join, Join.sameEach as bs = true ↔ as = bs
  | [], bs => by cases bs <;> simp [Join.sameEach]
  | a :: as, bs => by
      cases bs with
      | nil => simp [Join.sameEach]
      | cons b bs => simp [Join.sameEach, Join.same_iff a b, Join.sameEach_iff as bs]

theorem Join.same_iff : ∀ a b : Join, a.same b = true ↔ a = b
  | .mk _ relation _, .mk _ relation' _ => by
      simp [Join.same, TableFactor.same_iff relation relation', and_assoc]

theorem TableFactor.same_iff : ∀ a b : TableFactor, a.same b = true ↔ a = b
  | .table _ _ _ _, b => by cases b <;> simp [TableFactor.same, and_assoc]
  | .derived _ query _, b => by
      cases b with
      | derived _ query' _ =>
          simp [TableFactor.same, Query.same_iff query query', and_assoc]
      | _ => simp [TableFactor.same]
  | .joined tree _, b => by
      cases b with
      | joined tree' _ => simp [TableFactor.same, TableTree.same_iff tree tree']
      | _ => simp [TableFactor.same]
  | .other _ _ _, b => by cases b <;> simp [TableFactor.same, and_assoc]

end

/-- The comparison of statements decides equality. -/
theorem Statement.same_iff (a b : Statement) : a.same b = true ↔ a = b := by
  cases a with
  | query q =>
      cases b with
      | query r => simp [Statement.same, Query.same_iff q r]
      | other s => simp [Statement.same]
  | other s => cases b <;> simp [Statement.same]

instance : DecidableEq Query := fun a b => decidable_of_iff _ (Query.same_iff a b)

instance : DecidableEq Statement := fun a b => decidable_of_iff _ (Statement.same_iff a b)

end Sql

end Pushdown
