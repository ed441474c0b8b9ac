/-
**Definitions of tables.**

A table is created from its columns and conditions, like another table, or from the rows of a query.

Main definitions:

* `Sql.Parser.tableParts?` — the columns and conditions of a table;
* `Sql.Parser.createTable`, `Sql.Parser.createExternalTable` — a new table.
-/

import Pushdown.Sql.Parser.Definition.Storage

set_option autoImplicit false

namespace Pushdown

namespace Sql

namespace Parser

/-! ### Parts -/

/-- `IF NOT EXISTS` with a blank in front, if it is there. -/
def unlessExists? : Parser Text := phrase? [["IF", "NOT", "EXISTS"]]

/-- `IF EXISTS` with a blank in front, if it is there. -/
def ifExists? : Parser Text := phrase? [["IF", "EXISTS"]]

/-- The cluster of servers on which a statement runs, if it is named. -/
def onCluster? : Parser Text := clauseBehind? ["ON", "CLUSTER"] identifierText

/-- A part of a table: a condition to the left, a column to the right. -/
def tablePart (g : Grammar) : Parser (Text ⊕ Text) := do
  match ← tableConstraint? g with
  | some text => return .inl text
  | none => if isWord (← peek) then .inr <$> columnDefinition g else fail

/-- The parts of a table up to and with the closing parenthesis, at most as many as there is
fuel. -/
def tablePartsFrom (g : Grammar) : Nat → Parser (List (Text ⊕ Text))
  | 0 => fail
  | fuel + 1 => do
      let part ← tablePart g
      let goesOn ← symbol? ","
      let closes ← peekSymbol ")"
      if closes && (!goesOn || g.dialect.trailingCommas) then
        skip
        return [part]
      else if goesOn then return part :: (← tablePartsFrom g fuel)
      else fail

/-- The columns and then the conditions of a table in parentheses with a blank in front, or nothing
if there are none. -/
def tableParts? (g : Grammar) : Parser Text := do
  if !(← symbol? "(") then return []
  else if ← symbol? ")" then return []
  else
    let parts ← tablePartsFrom g ((← get).length + 1)
    let columns := parts.filterMap Sum.getRight?
    return ' ' :: inParens (listed (columns ++ parts.filterMap Sum.getLeft?))

/-- What happens to the rows of a temporary table at the end of a transaction, if it is said. -/
def onCommit? : Parser Text := do
  if ← keywords? ["ON", "COMMIT"] then
    match ← phrase? [["DELETE", "ROWS"], ["PRESERVE", "ROWS"], ["DROP"]] with
    | [] => fail
    | manner => return " ON COMMIT".toList ++ manner
  else return []

/-- The order in which the rows of a table are kept, if it is said. -/
def keptOrder? (g : Grammar) : Parser Text := do
  if ← keywords? ["ORDER", "BY"] then
    if ← symbol? "(" then
      let columns ← if ← peekSymbol ")" then pure [] else g.exprTexts
      symbol ")"
      return clause "ORDER BY" (inParens (listed columns))
    else return clause "ORDER BY" (← g.exprText)
  else return []

/-! ### Tables -/

/-- The table that a new one is like, if there is one. -/
def model? : Parser Text := do
  match ← oneOf? ["LIKE", "ILIKE"] with
  | some _ => return clause "LIKE" (← objectNameText)
  | none => return []

/-- The query that gives the rows of a new table, if there is one. -/
def source? (g : Grammar) : Parser Text := do
  if ← keyword? "AS" then clause "AS" <$> g.queryText
  else if g.dialect.name = .mysql ∧ (← peekKeyword "SELECT") then clause "AS" <$> g.queryText
  else return []

/-- A new table, behind the word. -/
def createTable (g : Grammar) (lead : Text) : Parser Text := do
  let guard ← unlessExists?
  let name ← objectNameText
  let cluster ← onCluster?
  let model ← model?
  let copied ← clause? "CLONE" objectNameText
  let parts ← tableParts? g
  let rowless ← phrase? [["WITHOUT", "ROWID"]]
  let partition ← partitioned? g
  let buckets ← buckets? g
  let stored ← storage g
  let settings ← tableSettings g
  let key ← textIf (g.dialect.name = .generic) (clauseBehind? ["PRIMARY", "KEY"] g.exprText)
  let order ← keptOrder? g
  let commit ← onCommit?
  let strict ← phrase? [["STRICT"]]
  let source ← source? g
  -- A table that is described by nothing else has an empty list of columns.
  let isBare := parts.isEmpty && model.isEmpty && copied.isEmpty && source.isEmpty
  let parts := if isBare then " ()".toList else parts
  return lead ++ "TABLE".toList ++ guard ++ ' ' :: name ++ cluster ++ parts ++ rowless ++ model ++
    copied ++ partition ++ buckets ++ stored.render ++ settings.options ++ key ++ order ++
    settings.inherited ++ settings.partition ++ settings.clusters ++ settings.late ++ commit ++
    strict ++ source

/-- A new table of rows outside the database, behind the word. -/
def createExternalTable (g : Grammar) (lead : Text) : Parser Text := do
  keyword "TABLE"
  let guard ← unlessExists?
  let name ← objectNameText
  let parts ← tableParts? g
  let partition ← partitioned? g
  let stored ← storage g
  let properties ← someOptions? g "TBLPROPERTIES"
  let parts := if parts.isEmpty then " ()".toList else parts
  return lead ++ "EXTERNAL TABLE".toList ++ guard ++ ' ' :: name ++ parts ++ partition ++
    stored.renderExternal ++ properties

/-- A table whose rows come from a module, behind the word. -/
def createVirtualTable (g : Grammar) : Parser Text := do
  keyword "TABLE"
  let guard ← unlessExists?
  let name ← objectNameText
  keyword "USING"
  let source ← identifierText
  return "CREATE VIRTUAL TABLE".toList ++ guard ++ ' ' :: name ++ clause "USING" source ++
    (← parenthesizedNames? g)

end Parser

end Sql

end Pushdown
