/-
**Syntax of SQL queries.**

A query is kept as a tree as far as conditions and tables reach: common tables, set operations,
selects with their `FROM` and `WHERE`, and in a condition the connectives, comparisons, lists and
subqueries.  What a plan never looks into, such as projections, groupings and arithmetic, is kept
as the text it is written in, with one blank between words and keywords in upper case.

Main definitions:

* `Sql.Expr`, `Sql.Query`, `Sql.Select`, `Sql.TableFactor` — the tree;
* `Sql.Statement` — a query, or a statement of another kind;
* `Sql.Expr.render`, `Sql.Query.render`, `Sql.Statement.render` — the text of a tree;
* `Sql.renderAll` — the text of several statements.
-/

import Pushdown.Sql.Quoted

set_option autoImplicit false

namespace Pushdown

namespace Sql

/-! ### Trees -/

/-- A literal. -/
inductive Literal where
  | string (style : StringStyle) (content : Text)
  /-- A number, truth value, null or placeholder. -/
  | plain (text : Text)
  deriving DecidableEq, Repr

/-- An operator between two operands. -/
inductive Operator where
  | and
  | or
  | eq
  | other (text : Text)
  deriving DecidableEq, Repr

/-- Where an operator of one operand is written. -/
inductive Placement where
  /-- In front, with a blank between. -/
  | spaced
  /-- Directly in front. -/
  | attached
  /-- Directly behind. -/
  | behind
  deriving DecidableEq, Repr

/-- An operator of one operand. -/
structure UnaryOperator where
  text : Text
  placement : Placement
  deriving DecidableEq, Repr

/-- A second name of a table. -/
structure Alias where
  /-- Whether `AS` stands in front. -/
  explicit : Bool
  name : Ident
  /-- The columns in parentheses with a blank in front, or nothing. -/
  columns : Text
  deriving DecidableEq, Repr

mutual

/-- An expression. -/
inductive Expr where
  | ident (name : Ident)
  | literal (value : Literal)
  /-- A name of several parts, or an access to a part of a value. -/
  | compound (text : Text)
  /-- A function call. -/
  | call (text : Text)
  | unary (op : UnaryOperator) (operand : Expr)
  | binary (op : Operator) (left right : Expr)
  /-- An expression in parentheses. -/
  | nested (inner : Expr)
  | inList (operand : Expr) (items : List Expr) (negated : Bool)
  /-- `EXISTS` and a query. -/
  | existence (query : Query) (negated : Bool)
  | subquery (query : Query)
  | other (text : Text)

/-- A query with its common tables and everything behind its body. -/
inductive Query where
  | mk (recursive : Bool) (commons : List CommonTable) (body : SetExpr) (tail : Text)

/-- A common table: its name, a mark behind `AS`, its query and what follows. -/
inductive CommonTable where
  | mk (name : Alias) (mark : Text) (query : Query) (tail : Text)

/-- The body of a query. -/
inductive SetExpr where
  | select (select : Select)
  /-- A query in parentheses. -/
  | query (query : Query)
  | combine (op : Text) (left right : SetExpr)
  | other (text : Text)

/-- A select: the text in front of `FROM` (behind it, if `FROM` comes first), the tables, the text
between the tables and the condition, the condition and the rest. -/
inductive Select where
  | mk (fromFirst : Bool) (head : Text) (source : List TableTree) (middle : Text)
      (selection : Option Expr) (tail : Text)

/-- A table and what is joined to it. -/
inductive TableTree where
  | mk (relation : TableFactor) (joins : List Join)

/-- A join: its kind, the table and the join condition. -/
inductive Join where
  | mk (kind : Text) (relation : TableFactor) (constraint : Text)

/-- A table in a `FROM` clause. -/
inductive TableFactor where
  /-- A table by name, with what stands in front of its second name and behind it. -/
  | table (name : List Ident) (middle : Text) (aliasName : Option Alias) (tail : Text)
  /-- A query as a table. -/
  | derived (lateral : Bool) (query : Query) (aliasName : Option Alias)
  /-- A join in parentheses. -/
  | joined (tree : TableTree) (aliasName : Option Alias)
  /-- A table of another kind and what stands behind its second name. -/
  | other (text : Text) (aliasName : Option Alias) (tail : Text)

end

/-- A statement. -/
inductive Statement where
  | query (query : Query)
  | other (text : Text)

/-! ### Text -/

/-- The text of a literal. -/
def Literal.render : Literal → Text
  | string style content => style.render content
  | plain text => text

/-- The text of an operator. -/
def Operator.render : Operator → Text
  | and => "AND".toList
  | or => "OR".toList
  | eq => "=".toList
  | other text => text

/-- An operator at its place. -/
def UnaryOperator.render (op : UnaryOperator) (operand : Text) : Text :=
  match op.placement with
  | .spaced => op.text ++ ' ' :: operand
  | .attached => op.text ++ operand
  | .behind => operand ++ op.text

/-- The text of a second name. -/
def Alias.render (a : Alias) : Text :=
  (if a.explicit then "AS ".toList else []) ++ a.name.render ++ a.columns

/-- The second name of a table with a blank in front, or nothing. -/
def renderAlias : Option Alias → Text
  | none => []
  | some a => ' ' :: a.render

/-- The parts of a name with periods between. -/
def renderName (parts : List Ident) : Text := Text.joinWith ['.'] (parts.map Ident.render)

/-- What stands between the elements of a list. -/
def comma : Text := ", ".toList

/-- A text in parentheses. -/
def inParens (s : Text) : Text := '(' :: s ++ [')']

/-- `NOT` and a blank, or nothing. -/
def renderNot (negated : Bool) : Text := if negated then "NOT ".toList else []

/-- The texts of a select, put together. -/
def assembleSelect (fromFirst : Bool) (head source middle selection tail : Text) : Text :=
  let source := if source.isEmpty then [] else "FROM ".toList ++ source
  let front := if fromFirst then [source, head] else [head, source]
  Text.joinWith [' '] (front.filter fun s => !s.isEmpty) ++ middle ++ selection ++ tail

mutual

/-- The text of an expression. -/
def Expr.render : Expr → Text
  | .ident name => name.render
  | .literal value => value.render
  | .compound text => text
  | .call text => text
  | .unary op operand => op.render operand.render
  | .binary op left right => left.render ++ ' ' :: op.render ++ ' ' :: right.render
  | .nested inner => inParens inner.render
  | .inList operand items negated =>
      operand.render ++ ' ' :: renderNot negated ++ "IN ".toList ++
        inParens (Text.joinWith comma (Expr.renderEach items))
  | .existence query negated =>
      renderNot negated ++ "EXISTS ".toList ++ inParens query.render
  | .subquery query => inParens query.render
  | .other text => text

/-- The texts of expressions. -/
def Expr.renderEach : List Expr → List Text
  | [] => []
  | e :: rest => e.render :: Expr.renderEach rest

/-- The condition of a select with its keyword, or nothing. -/
def Expr.renderSelection : Option Expr → Text
  | none => []
  | some e => " WHERE ".toList ++ e.render

/-- The text of a query. -/
def Query.render : Query → Text
  | .mk isRecursive commons body tail =>
      (if commons.isEmpty then []
        else
          (if isRecursive then "WITH RECURSIVE ".toList else "WITH ".toList) ++
            Text.joinWith comma (CommonTable.renderEach commons) ++ [' ']) ++
        body.render ++ tail

/-- The text of a common table. -/
def CommonTable.render : CommonTable → Text
  | .mk name mark query tail =>
      name.render ++ " AS ".toList ++ mark ++ inParens query.render ++ tail

/-- The texts of common tables. -/
def CommonTable.renderEach : List CommonTable → List Text
  | [] => []
  | c :: rest => c.render :: CommonTable.renderEach rest

/-- The text of a query body. -/
def SetExpr.render : SetExpr → Text
  | .select select => select.render
  | .query query => inParens query.render
  | .combine op left right => left.render ++ ' ' :: op ++ ' ' :: right.render
  | .other text => text

/-- The text of a select. -/
def Select.render : Select → Text
  | .mk fromFirst head source middle selection tail =>
      assembleSelect fromFirst head (Text.joinWith comma (TableTree.renderEach source)) middle
        (Expr.renderSelection selection) tail

/-- The text of a table and its joins. -/
def TableTree.render : TableTree → Text
  | .mk relation joins => relation.render ++ Join.renderAll joins

/-- The texts of tables and their joins. -/
def TableTree.renderEach : List TableTree → List Text
  | [] => []
  | t :: rest => t.render :: TableTree.renderEach rest

/-- The text of joins, each with a blank in front. -/
def Join.renderAll : List Join → Text
  | [] => []
  | j :: rest => ' ' :: j.render ++ Join.renderAll rest

/-- The text of a join. -/
def Join.render : Join → Text
  | .mk kind relation constraint => kind ++ ' ' :: relation.render ++ constraint

/-- The text of a table. -/
def TableFactor.render : TableFactor → Text
  | .table name middle aliasName tail => renderName name ++ middle ++ renderAlias aliasName ++ tail
  | .derived lateral query aliasName =>
      (if lateral then "LATERAL ".toList else []) ++ inParens query.render ++ renderAlias aliasName
  | .joined tree aliasName => inParens tree.render ++ renderAlias aliasName
  | .other text aliasName tail => text ++ renderAlias aliasName ++ tail

end

/-- The text of a statement. -/
def Statement.render : Statement → Text
  | query q => q.render
  | other text => text

/-- The text of several statements. -/
def renderAll (statements : List Statement) : Text :=
  Text.joinWith "; ".toList (statements.map Statement.render)

end Sql

end Pushdown
