/-
**Turned tables in SQL.**

Rows of a table are turned into columns, with an aggregate for each value of a column, and columns
are turned into rows.

Main definitions:

* `Sql.Parser.turned` — a table with everything that turns it.
-/

import Pushdown.Sql.Parser.Call

set_option autoImplicit false

namespace Pushdown

namespace Sql

namespace Parser

/-- An expression and the name it gets, if it gets one. -/
def exprAs (g : Grammar) : Parser Text :=
  return (← g.exprText) ++ (← clause? "AS" identifierText)

/-- An aggregate of a turned table and the name it gets.  The name `FOR` has to be in quotes. -/
def pivotAggregate (g : Grammar) : Parser Text := do
  match ← next with
  | .word text _ =>
      let aggregate ← callText g text
      let explicit ← keyword? "AS"
      if isKeyword "FOR" (← peek) then
        if explicit then fail else return aggregate
      else
        match ← aliasBehind explicit columnAliasRefused with
        | some name => return aggregate ++ clause "AS" name.render
        | none => return aggregate
  | _ => fail

/-- The columns whose values become columns. -/
def pivotColumns (g : Grammar) : Parser Text := do
  let column : Parser Text := Expr.render <$> g.subexpr g.dialect.strengths.between
  if ← peekSymbol "(" then
    let columns ← parenthesized (commaSeparated g.dialect column)
    return match columns with
      | [one] => one
      | several => inParens (listed several)
  else column

/-- The values that become columns: any, those of a query, or some. -/
def pivotValues (g : Grammar) : Parser Text := do
  if ← keyword? "ANY" then
    let order ← listBehind g ["ORDER", "BY"] (orderItem g)
    return spaced ["ANY".toList, order]
  else if isAnyKeyword ["SELECT", "WITH"] (← peek) then g.queryText
  else g.list (exprAs g)

/-- Rows turned into columns, behind the word. -/
def pivot (g : Grammar) (table : Text) : Parser TableFactor := do
  let inner ← parenthesized do
    let aggregates ← g.list (pivotAggregate g)
    keyword "FOR"
    let columns ← pivotColumns g
    keyword "IN"
    let values ← parenthesized (pivotValues g)
    let default ←
      if ← keywords? ["DEFAULT", "ON", "NULL"] then
        pure (" DEFAULT ON NULL ".toList ++ inParens (← parenthesized g.exprText))
      else pure []
    return aggregates ++ clause "FOR" columns ++ clause "IN" (inParens values) ++ default
  return .other (table ++ " PIVOT".toList ++ inParens inner) (← tableAlias? g) []

/-- Columns turned into rows, behind the word. -/
def unpivot (g : Grammar) (table : Text) : Parser TableFactor := do
  let nulls ← oneOf? ["INCLUDE", "EXCLUDE"]
  if nulls.isSome then keyword "NULLS"
  let inner ← parenthesized do
    let value ← g.exprText
    keyword "FOR"
    let name ← identifierText
    keyword "IN"
    let columns ← g.listInParens (exprAs g)
    return value ++ clause "FOR" name ++ clause "IN" columns
  let manner :=
    match nulls with
    | some word => ' ' :: word ++ " NULLS ".toList
    | none => []
  return .other (table ++ " UNPIVOT".toList ++ manner ++ inParens inner) (← tableAlias? g) []

/-- A table with everything that turns it, at most as often as there is fuel. -/
def turnedFrom (g : Grammar) : Nat → TableFactor → Parser TableFactor
  | 0, table => return table
  | fuel + 1, table => do
      if ← keyword? "PIVOT" then turnedFrom g fuel (← pivot g table.render)
      else if ← keyword? "UNPIVOT" then turnedFrom g fuel (← unpivot g table.render)
      else return table

/-- A table with everything that turns it. -/
def turned (g : Grammar) (table : TableFactor) : Parser TableFactor := do
  turnedFrom g ((← get).length + 1) table

end Parser

end Sql

end Pushdown
