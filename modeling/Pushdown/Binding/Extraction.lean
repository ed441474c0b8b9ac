/-
**Extraction of bindings.**

A condition `name = value` or `name IN (values)` whose name belongs to the request is a binding.  It
is taken out of the `WHERE` clause if only `AND`, `OR` and parentheses stand above it; a connective
that loses one side becomes the other side, and a clause that loses everything disappears.
Conditions under `NOT` stay.  Queries in place of tables, and queries that a condition is made of,
are searched too.

Main definitions:

* `Sql.Expr.valueText` — the value that an operand stands for;
* `Sql.Expr.binding?` — the binding that a condition is;
* `Sql.Expr.prune` — a condition without its bindings, and the bindings;
* `Sql.Query.extract`, `Sql.Statement.extract` — the same for queries and statements;
* `Sql.extractAll` — the same for several statements.
-/

import Pushdown.Binding.Target
import Pushdown.Sql.Syntax

set_option autoImplicit false

namespace Pushdown

namespace Sql

/-! ### Bindings -/

/-- The value of a literal without its notation. -/
def Literal.valueText : Literal → Text
  | string .hex content => StringStyle.hex.render content
  | string _ content => content
  | plain text => text

/-- The value that an operand stands for, without quotes. -/
def Expr.valueText : Expr → Text
  | .literal value => value.valueText
  | .ident name => name.value
  | e => Text.trimChar '"' e.render

/-- The target that an expression names. -/
def Expr.target? (w : Whitelist) : Expr → Option Target
  | .ident name => Target.resolve? w name.value
  | _ => none

/-- The binding that a condition is. -/
def Expr.binding? (w : Whitelist) : Expr → Option Binding
  | .binary .eq left right => (left.target? w).map fun target => ⟨target, [right.valueText]⟩
  | .inList operand items false =>
      (operand.target? w).map fun target => ⟨target, items.map Expr.valueText⟩
  | _ => none

/-! ### Pruning -/

/-- A connective of what is left of its two sides. -/
def connect (op : Operator) : Option Expr → Option Expr → Option Expr
  | some left, some right => some (.binary op left right)
  | some left, none => some left
  | none, right => right

/-- A condition that is taken out as a whole if it is a binding and may be taken, and stays
otherwise. -/
def Expr.pruneLeaf (w : Whitelist) (takes : Bool) (e : Expr) : Option Expr × List Binding :=
  if takes then
    match e.binding? w with
    | some b => (none, [b])
    | none => (some e, [])
  else (some e, [])

mutual

/-- A condition without its bindings, and the bindings; nothing may be left.  `takes` tells whether
bindings may be taken here. -/
def Expr.prune (w : Whitelist) : Bool → Expr → Option Expr × List Binding
  | takes, .binary .and left right =>
      let l := left.prune w takes
      let r := right.prune w takes
      (connect .and l.1 r.1, l.2 ++ r.2)
  | takes, .binary .or left right =>
      let l := left.prune w takes
      let r := right.prune w takes
      (connect .or l.1 r.1, l.2 ++ r.2)
  | takes, .nested inner =>
      let i := inner.prune w takes
      (i.1.map .nested, i.2)
  -- Nothing under a sign or `NOT` is taken, but queries in there are still searched.
  | _, .unary op operand =>
      let o := operand.prune w false
      (o.1.map (.unary op), o.2)
  -- A query has conditions of its own, so it does not matter what stands above it.
  | _, .subquery query =>
      let q := query.extract w
      (some (.subquery q.1), q.2)
  | _, .existence query negated =>
      let q := query.extract w
      (some (.existence q.1 negated), q.2)
  | takes, .binary .eq left right => Expr.pruneLeaf w takes (.binary .eq left right)
  | takes, .inList operand items negated =>
      Expr.pruneLeaf w takes (.inList operand items negated)
  | _, .binary (.other op) left right => (some (.binary (.other op) left right), [])
  | _, .ident name => (some (.ident name), [])
  | _, .literal value => (some (.literal value), [])
  | _, .compound text => (some (.compound text), [])
  | _, .call text => (some (.call text), [])
  | _, .other text => (some (.other text), [])

/-- A `WHERE` clause without its bindings, and the bindings. -/
def Expr.pruneSelection (w : Whitelist) : Option Expr → Option Expr × List Binding
  | none => (none, [])
  | some e => e.prune w true

/-- A query without its bindings, and the bindings. -/
def Query.extract (w : Whitelist) : Query → Query × List Binding
  | .mk isRecursive commons body tail =>
      let c := CommonTable.extractAll w commons
      let b := body.extract w
      (.mk isRecursive c.1 b.1 tail, c.2 ++ b.2)

/-- Common tables without their bindings, and the bindings. -/
def CommonTable.extractAll (w : Whitelist) : List CommonTable → List CommonTable × List Binding
  | [] => ([], [])
  | c :: rest =>
      let c := c.extract w
      let r := CommonTable.extractAll w rest
      (c.1 :: r.1, c.2 ++ r.2)

/-- A common table without its bindings, and the bindings. -/
def CommonTable.extract (w : Whitelist) : CommonTable → CommonTable × List Binding
  | .mk name mark query tail =>
      let q := query.extract w
      (.mk name mark q.1 tail, q.2)

/-- A body without its bindings, and the bindings. -/
def SetExpr.extract (w : Whitelist) : SetExpr → SetExpr × List Binding
  | .select select =>
      let s := select.extract w
      (.select s.1, s.2)
  | .query query =>
      let q := query.extract w
      (.query q.1, q.2)
  | .combine op left right =>
      let l := left.extract w
      let r := right.extract w
      (.combine op l.1 r.1, l.2 ++ r.2)
  | .other text => (.other text, [])

/-- A select without its bindings, and the bindings. -/
def Select.extract (w : Whitelist) : Select → Select × List Binding
  | .mk fromFirst head source middle selection tail =>
      let t := TableTree.extractAll w source
      let s := Expr.pruneSelection w selection
      (.mk fromFirst head t.1 middle s.1 tail, t.2 ++ s.2)

/-- Tables without their bindings, and the bindings. -/
def TableTree.extractAll (w : Whitelist) : List TableTree → List TableTree × List Binding
  | [] => ([], [])
  | t :: rest =>
      let t := t.extract w
      let r := TableTree.extractAll w rest
      (t.1 :: r.1, t.2 ++ r.2)

/-- A table with its joins without their bindings, and the bindings. -/
def TableTree.extract (w : Whitelist) : TableTree → TableTree × List Binding
  | .mk relation joins =>
      let t := relation.extract w
      let j := Join.extractAll w joins
      (.mk t.1 j.1, t.2 ++ j.2)

/-- Joins without their bindings, and the bindings. -/
def Join.extractAll (w : Whitelist) : List Join → List Join × List Binding
  | [] => ([], [])
  | j :: rest =>
      let j := j.extract w
      let r := Join.extractAll w rest
      (j.1 :: r.1, j.2 ++ r.2)

/-- A join without its bindings, and the bindings. -/
def Join.extract (w : Whitelist) : Join → Join × List Binding
  | .mk kind relation constraint =>
      let t := relation.extract w
      (.mk kind t.1 constraint, t.2)

/-- A table without its bindings, and the bindings. -/
def TableFactor.extract (w : Whitelist) : TableFactor → TableFactor × List Binding
  | .table name middle aliasName tail => (.table name middle aliasName tail, [])
  | .derived lateral query aliasName =>
      let q := query.extract w
      (.derived lateral q.1 aliasName, q.2)
  | .joined tree aliasName =>
      let t := tree.extract w
      (.joined t.1 aliasName, t.2)
  | .other text aliasName tail => (.other text aliasName tail, [])

end

/-- A statement without its bindings, and the bindings; only queries have some. -/
def Statement.extract (w : Whitelist) : Statement → Statement × List Binding
  | query q =>
      let q := q.extract w
      (query q.1, q.2)
  | other text => (other text, [])

/-- Statements without their bindings, and the bindings in the order they are written. -/
def extractAll (w : Whitelist) : List Statement → List Statement × List Binding
  | [] => ([], [])
  | s :: rest =>
      let s := s.extract w
      let r := extractAll w rest
      (s.1 :: r.1, s.2 ++ r.2)

end Sql

end Pushdown
