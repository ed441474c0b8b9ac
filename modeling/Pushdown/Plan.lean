/-
**Plans of statements.**

A statement reads from a virtual table whose name is its URI.  Conditions that belong to the request
move from the statement into the URI, and the statement then reads from the new URI.  What is asked
for and what is left to do make up the plan.  A statement that does not read from the table, or has
nothing to move, is its own plan.

Main definitions:

* `Plan` — a URI, a statement and the bindings between;
* `Plan.redirect` — a statement that reads from another table;
* `Plan.make` — the plan of a statement;
* `Plan.orInput` — the same, with the input in place of a failure.
-/

import Pushdown.Binding.Extraction
import Pushdown.Cleanup.EmptyGroup
import Pushdown.Config.Basic
import Pushdown.Sql.Script
import Pushdown.Sql.Tables

set_option autoImplicit false

namespace Pushdown

/-- The plan of a statement. -/
structure Plan where
  /-- The virtual table with the values of the bindings. -/
  uri : Text
  /-- The statement without the bindings. -/
  sql : Text
  /-- The bindings in the order they are written. -/
  bindings : List Binding
  deriving DecidableEq, Repr

namespace Plan

/-! ### The table -/

/-- Whether statements read from a table. -/
def readsFrom (name : Text) (statements : List Sql.Statement) : Bool :=
  (statements.flatMap Sql.Statement.tables).any fun t => t.name == name

/-- The pairs that carry the values of bindings. -/
def pairs (bindings : List Binding) : List Text :=
  bindings.flatMap fun b => b.values.map b.target.pair

/-- A table with further pairs. -/
def extend (uri : Text) (pairs : List Text) : Text := pairs.foldl Table.appendPair uri

/-- A name in quotes, with inner quotes doubled. -/
def quoted (quote : Char) (name : Text) : Text :=
  quote :: Text.replaceChar quote [quote, quote] name ++ [quote]

/-- The text with one quoted name in place of another. -/
def redirectQuoted (quote : Char) (source target sql : Text) : Text :=
  Text.replaceAll (quoted quote source) (quoted quote target) sql

/-- The text with one name in place of another wherever it stands in double quotes or in
backquotes. -/
def redirect (source target sql : Text) : Text :=
  if source = target then sql
  else redirectQuoted '\x60' source target (redirectQuoted '"' source target sql)

/-! ### The statement -/

/-- The plan of the statements of a canonical text. -/
def ofStatements (c : Config) (base : Text) (unchanged : Plan)
    (statements : List Sql.Statement) : Except Sql.Error Plan :=
  if !readsFrom base statements then .ok unchanged
  else
    match Sql.extractAll c.whitelist statements with
    | (_, []) => .ok unchanged
    | (rest, bindings) =>
        -- The residual statement is read again: cleaning it up may have removed a whole clause.
        let uri := extend base (pairs bindings)
        let residual := redirect base uri (Cleanup.sanitize (Sql.renderAll rest))
        match Sql.canonicalize c.dialect residual with
        | .error e => .error e
        | .ok sql => .ok ⟨uri, sql, bindings⟩

/-- The plan of a statement that reads from a virtual table.  The statement is brought to its
canonical form first. -/
def make (c : Config) (uri sql : Text) : Except Sql.Error Plan :=
  match Sql.canonicalize c.dialect sql with
  | .error e => .error e
  | .ok canonical =>
      match Sql.parse c.dialect canonical with
      | .error e => .error e
      | .ok statements => ofStatements c (Text.trim uri) ⟨uri, sql, []⟩ statements

/-- The new virtual table and statement, or the given ones if the statement is refused. -/
def orInput (c : Config) (uri sql : Text) : Text × Text :=
  match make c uri sql with
  | .ok r => (r.uri, r.sql)
  | .error _ => (uri, sql)

/-- The JSON object of a plan. -/
def toJson (r : Plan) : Json :=
  .object [("uri".toList, .string r.uri), ("sql".toList, .string r.sql),
    ("bindings".toList, .array (r.bindings.map Binding.toJson))]

end Plan

end Pushdown
