/-
**Tables of a statement.**

A statement reads the tables in its `FROM` clauses, at any depth through common tables, set
operations, queries in place of tables and joins in parentheses.  Queries inside conditions and
projections are not looked into.

Main definitions:

* `Sql.TableUse` — a table by name and its second name;
* `Sql.Query.tables`, `Sql.Statement.tables` — the tables in the order they are written.
-/

import Pushdown.Sql.Syntax

set_option autoImplicit false

namespace Pushdown

namespace Sql

/-- A table that is read, and its second name. -/
structure TableUse where
  name : Text
  aliasName : Option Text
  deriving DecidableEq, Repr

/-- A name of several parts without quotes. -/
def plainName (parts : List Ident) : Text := Text.joinWith ['.'] (parts.map Ident.value)

mutual

/-- The tables of a query. -/
def Query.tables : Query → List TableUse
  | .mk _ commons body _ => CommonTable.allTables commons ++ body.tables

/-- The tables of common tables. -/
def CommonTable.allTables : List CommonTable → List TableUse
  | [] => []
  | c :: rest => c.tables ++ CommonTable.allTables rest

/-- The tables of a common table. -/
def CommonTable.tables : CommonTable → List TableUse
  | .mk _ _ query _ => query.tables

/-- The tables of a body. -/
def SetExpr.tables : SetExpr → List TableUse
  | .select select => select.tables
  | .query query => query.tables
  | .combine _ left right => left.tables ++ right.tables
  | .other _ => []

/-- The tables of a select. -/
def Select.tables : Select → List TableUse
  | .mk _ _ source _ _ _ => TableTree.allTables source

/-- The tables of several trees. -/
def TableTree.allTables : List TableTree → List TableUse
  | [] => []
  | t :: rest => t.tables ++ TableTree.allTables rest

/-- The tables of a tree. -/
def TableTree.tables : TableTree → List TableUse
  | .mk relation joins => relation.tables ++ Join.allTables joins

/-- The tables of joins. -/
def Join.allTables : List Join → List TableUse
  | [] => []
  | j :: rest => j.tables ++ Join.allTables rest

/-- The tables of a join. -/
def Join.tables : Join → List TableUse
  | .mk _ relation _ => relation.tables

/-- The tables of a table factor. -/
def TableFactor.tables : TableFactor → List TableUse
  | .table name _ aliasName _ => [⟨plainName name, aliasName.map fun a => a.name.value⟩]
  | .derived _ query _ => query.tables
  | .joined tree _ => tree.tables
  | .other _ _ _ => []

end

/-- The tables of a statement; statements that are no queries have none. -/
def Statement.tables : Statement → List TableUse
  | query q => q.tables
  | other _ => []

end Sql

end Pushdown
