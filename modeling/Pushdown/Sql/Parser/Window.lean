/-
**Order and windows in SQL.**

Rows are ordered by expressions, each with a direction.  A window function looks at rows near its
own: those of a partition, in an order, within a frame.

Main definitions:

* `Sql.Parser.orderItem` — an expression of an `ORDER BY` list;
* `Sql.Parser.windowSpec` — the rows that a window function looks at.
-/

import Pushdown.Sql.Parser.Interval

set_option autoImplicit false

namespace Pushdown

namespace Sql

namespace Parser

/-! ### Order -/

/-- The direction of an `ORDER BY` item. -/
def orderOptions : Parser Text := do
  let direction ← phrase? [["ASC"], ["DESC"]]
  return direction ++ (← phrase? [["NULLS", "FIRST"], ["NULLS", "LAST"]])

/-- How the gaps between the rows are filled, if they are. -/
def filling? (g : Grammar) : Parser Text := do
  if ← keywordsIf? (g.dialect.name == .generic) ["WITH", "FILL"] then
    return " WITH FILL".toList ++ (← clause? "FROM" g.exprText) ++ (← clause? "TO" g.exprText) ++
      (← clause? "STEP" g.exprText)
  else return []

/-- An expression of an `ORDER BY` list. -/
def orderItem (g : Grammar) : Parser Text :=
  return (← g.exprText) ++ (← orderOptions) ++ (← filling? g)

/-- A list behind two keywords, if they are there. -/
def listBehind (g : Grammar) (words : List String) (p : Parser Text) : Parser Text := do
  if ← keywords? words then
    return Text.joinWith [' '] (words.map String.toList) ++ ' ' :: (← g.list p)
  else return []

/-! ### Windows -/

/-- One end of a window frame. -/
def frameBound (g : Grammar) : Parser Text := do
  if ← keywords? ["CURRENT", "ROW"] then return "CURRENT ROW".toList
  else
    let rows ←
      if ← keyword? "UNBOUNDED" then pure "UNBOUNDED".toList
      else
        match ← peek with
        | some (.string .single _) => interval g
        | _ => g.exprText
    return rows ++ ' ' :: (← oneOf ["PRECEDING", "FOLLOWING"])

/-- The frame of a window. -/
def windowFrame (g : Grammar) : Parser Text := do
  let unit ← oneOf ["ROWS", "RANGE", "GROUPS"]
  if ← keyword? "BETWEEN" then
    let first ← frameBound g
    keyword "AND"
    return unit ++ " BETWEEN ".toList ++ first ++ " AND ".toList ++ (← frameBound g)
  else return unit ++ ' ' :: (← frameBound g)

/-- A window behind its opening parenthesis, up to and with the closing one. -/
def windowSpec (g : Grammar) : Parser Text := do
  let token ← peek
  let base ←
    match token with
    | some (.word _ _) =>
        -- A keyword is the name of no window.
        if (keywordOf? token).any Keyword.isReserved then pure [] else identifierText
    | _ => pure []
  let partition ← listBehind g ["PARTITION", "BY"] g.exprText
  let order ← listBehind g ["ORDER", "BY"] (orderItem g)
  let frame ← if ← peekSymbol ")" then pure [] else windowFrame g
  symbol ")"
  return spaced [base, partition, order, frame]

end Parser

end Sql

end Pushdown
