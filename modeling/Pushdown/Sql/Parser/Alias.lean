/-
**Second names in SQL.**

Behind a column or a table a further name gives it a second one.  Without `AS` in front, the words
that continue a query are no second names.

Main definitions:

* `Sql.Parser.columnAlias?` — the second name of a column;
* `Sql.Parser.tableAlias?` — the second name of a table and of its columns.
-/

import Pushdown.Sql.Parser.Type

set_option autoImplicit false

namespace Pushdown

namespace Sql

namespace Parser

/-- The words that are never the second name of a table without `AS`. -/
def tableAliasRefused : List String :=
  ["WITH", "EXPLAIN", "ANALYZE", "SELECT", "WHERE", "GROUP", "SORT", "HAVING", "ORDER", "PIVOT",
    "UNPIVOT", "TOP", "LATERAL", "VIEW", "LIMIT", "OFFSET", "FETCH", "UNION", "EXCEPT",
    "INTERSECT", "MINUS", "ON", "JOIN", "INNER", "CROSS", "FULL", "LEFT", "RIGHT", "NATURAL",
    "USING", "CLUSTER", "DISTRIBUTE", "GLOBAL", "ANTI", "SEMI", "RETURNING", "ASOF",
    "MATCH_CONDITION", "OUTER", "SET", "QUALIFY", "WINDOW", "END", "FOR", "PARTITION", "PREWHERE",
    "SETTINGS", "FORMAT", "START", "CONNECT", "MATCH_RECOGNIZE", "SAMPLE", "TABLESAMPLE", "FROM",
    "OPEN"]

/-- Further words of MySQL that are never the second name of a table without `AS`. -/
def tableHintWords : List String := ["USE", "IGNORE", "FORCE", "STRAIGHT_JOIN"]

/-- A second name that is not one of some words; `explicit` tells whether `AS` stands in front,
behind which any word is a name and one has to follow. -/
def aliasBehind (explicit : Bool) (refused : List String) : Parser (Option Ident) := do
  let token ← peek
  match token.bind identOf? with
  | some name =>
      if explicit || !isAnyKeyword refused token then
        skip
        return some name
      else return none
  | none => if explicit then fail else return none

/-- A second name that is not one of some words unless `AS` stands in front, and whether it does. -/
def aliasUnless (refused : List String) : Parser (Option (Bool × Ident)) := do
  let explicit ← keyword? "AS"
  return (← aliasBehind explicit refused).map fun name => (explicit, name)

/-- The second name of a column. -/
def columnAlias? : Parser (Option Ident) := do
  return (← aliasUnless columnAliasRefused).map Prod.snd

/-- A column of a second name, with its type if one follows. -/
def aliasColumn (g : Grammar) : Parser Text := do
  let name ← identifierText
  let type ← attempt (dataType g)
  return name ++ markOf (type.map DataType.render)

/-- The second name of a table and of its columns. -/
def tableAlias? (g : Grammar) : Parser (Option Alias) := do
  let refused :=
    if g.dialect.name = .mysql then tableAliasRefused ++ tableHintWords else tableAliasRefused
  match ← aliasUnless refused with
  | none => return none
  | some (explicit, name) =>
      if ← peekSymbol "(" then
        let columns ← parenthesized (g.list (aliasColumn g))
        return some ⟨explicit, name, ' ' :: inParens columns⟩
      else return some ⟨explicit, name, []⟩

end Parser

end Sql

end Pushdown
