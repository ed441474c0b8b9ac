/-
**Steps behind a SQL query.**

A query may be followed by steps behind `|>`, each of which works on the rows of the one before:
they select, filter, group, order, join or turn them.

Main definitions:

* `Sql.Parser.pipeStep` — a step;
* `Sql.Parser.pipe?` — the steps of a query.
-/

import Pushdown.Sql.Parser.Change
import Pushdown.Sql.Parser.Query.Body

set_option autoImplicit false

namespace Pushdown

namespace Sql

namespace Parser

/-! ### Parts of steps -/

/-- A second name, with or without `AS` in front, if there is one; any word is one. -/
def anyAlias? : Parser Text := do
  if ← keyword? "AS" then return clause "AS" (← identifierText)
  else return clauseOf "AS" (← attempt identifierText)

/-- An expression with its second name and direction. -/
def aggregated (g : Grammar) : Parser Text := do
  let value ← g.exprText
  let name := (← aliasUnless ["ASC", "DESC", "GROUP"]).map fun found => found.2.render
  return value ++ clauseOf "AS" name ++ (← phrase? [["ASC"], ["DESC"]])

/-- A column and its new name. -/
def stepRename : Parser Text := do
  let name ← identifierText
  let _ ← keyword? "AS"
  return name ++ clause "AS" (← identifierText)

/-- Queries in parentheses with commas between. -/
def stepQueries (g : Grammar) : Parser Text := g.list (inParens <$> parenthesized g.queryText)

/-- A name of several parts with periods between. -/
def dottedName : Parser Text := do
  let further : Parser (Option Text) := do
    if ← symbol? "." then some <$> (('.' :: ·) <$> identifierText) else return none
  return (← identifierText) ++ (← repeated further).flatten

/-- A set operation that keeps no equal rows, behind its word. -/
def distinctOperation (g : Grammar) (word : String) : Parser Text := do
  let quantifier ← setQuantifier
  if quantifier = " DISTINCT".toList ∨ quantifier = " DISTINCT BY NAME".toList then
    return word.toList ++ quantifier ++ ' ' :: (← stepQueries g)
  else fail

/-! ### Steps -/

/-- Groups of rows and their values, behind the word. -/
def aggregateStep (g : Grammar) : Parser Text := do
  let values ← if ← peekKeyword "GROUP" then pure [] else (' ' :: ·) <$> g.list (aggregated g)
  return "AGGREGATE".toList ++ values ++ (← clauseBehind? ["GROUP", "BY"] (g.list (aggregated g)))

/-- A call with the rows in front as its argument, behind the word. -/
def callStep (g : Grammar) : Parser Text := do
  let name ← objectNameText
  let text ← callText g name
  return "CALL ".toList ++ text ++ (← anyAlias?)

/-- Rows turned into columns, behind the word. -/
def pivotStep (g : Grammar) : Parser Text := do
  let inner ← parenthesized do
    let aggregates ← g.list (pivotAggregate g)
    keyword "FOR"
    let column ← dottedName
    keyword "IN"
    let values ← parenthesized (pivotValues g)
    return aggregates ++ clause "FOR" column ++ clause "IN" (inParens values)
  return "PIVOT".toList ++ inParens inner ++ (← anyAlias?)

/-- Columns turned into rows, behind the word. -/
def unpivotStep (g : Grammar) : Parser Text := do
  let inner ← parenthesized do
    let value ← identifierText
    keyword "FOR"
    let name ← identifierText
    keyword "IN"
    return value ++ clause "FOR" name ++ clause "IN" (← parenthesizedNames g)
  return "UNPIVOT".toList ++ inParens inner ++ (← anyAlias?)

/-- A single join. -/
def joinStep (g : Grammar) : Parser Text := do
  match ← repeated (join? g) with
  | [join] => return join.render
  | _ => fail

/-- A step behind its sign. -/
def pipeStep (g : Grammar) : Parser Text := do
  let behindWord (word : String) (p : Parser Text) : Parser Text := do
    return word.toList ++ ' ' :: (← p)
  if ← keyword? "SELECT" then behindWord "SELECT" (g.list (selectItem g))
  else if ← keyword? "EXTEND" then behindWord "EXTEND" (g.list (selectItem g))
  else if ← keyword? "SET" then behindWord "SET" (assignments g)
  else if ← keyword? "DROP" then behindWord "DROP" (listed <$> wordsToEnd)
  else if ← keyword? "AS" then behindWord "AS" identifierText
  else if ← keyword? "WHERE" then behindWord "WHERE" g.exprText
  else if ← keyword? "LIMIT" then
    return "LIMIT ".toList ++ (← g.exprText) ++ (← clause? "OFFSET" g.exprText)
  else if ← keyword? "AGGREGATE" then aggregateStep g
  else if ← keyword? "ORDER" then
    keyword "BY"
    behindWord "ORDER BY" (g.list (orderItem g))
  else if ← keyword? "TABLESAMPLE" then return "TABLESAMPLE".toList ++ (← sample g)
  else if ← keyword? "RENAME" then behindWord "RENAME" (g.list stepRename)
  else if ← keyword? "UNION" then
    let quantifier ← setQuantifier
    return "UNION".toList ++ quantifier ++ ' ' :: (← stepQueries g)
  else if ← keyword? "INTERSECT" then distinctOperation g "INTERSECT"
  else if ← keyword? "EXCEPT" then distinctOperation g "EXCEPT"
  else if ← keyword? "CALL" then callStep g
  else if ← keyword? "PIVOT" then pivotStep g
  else if ← keyword? "UNPIVOT" then unpivotStep g
  else if isAnyKeyword ["JOIN", "INNER", "LEFT", "RIGHT", "FULL", "CROSS"] (← peek) then joinStep g
  else fail

/-- A step with its sign, if there is one. -/
def pipeStep? (g : Grammar) : Parser (Option Text) := do
  if ← symbol? "|>" then return some (" |> ".toList ++ (← pipeStep g)) else return none

/-- The steps of a query, if the dialect has them. -/
def pipe? (g : Grammar) : Parser Text := do
  if g.dialect.pipeSteps then return (← repeated (pipeStep? g)).flatten else return []

end Parser

end Sql

end Pushdown
