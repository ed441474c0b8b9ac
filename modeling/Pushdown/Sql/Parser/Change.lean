/-
**Changes of tables in SQL.**

Rows are inserted, updated, deleted or merged.  A change is kept as its text: it holds no condition
that a plan looks into.

Main definitions:

* `Sql.Parser.assignment` — a column and its new value;
* `Sql.Parser.insert`, `Sql.Parser.update`, `Sql.Parser.delete`, `Sql.Parser.merge` — the changes;
* `Sql.Parser.change` — the change that starts with a word.
-/

import Pushdown.Sql.Parser.Select

set_option autoImplicit false

namespace Pushdown

namespace Sql

namespace Parser

/-! ### Parts of changes -/

/-- The columns that a change gives back, if it does. -/
def returning? (g : Grammar) : Parser Text := clause? "RETURNING" (g.list (selectItem g))

/-- A column or several, and the new value. -/
def assignment (g : Grammar) : Parser Text := do
  let target ←
    if ← peekSymbol "(" then inParens <$> parenthesized (g.list objectNameText)
    else objectNameText
  symbol "="
  return target ++ " = ".toList ++ (← g.exprText)

/-- Several assignments. -/
def assignments (g : Grammar) : Parser Text := g.list (assignment g)

/-- What happens on a conflict, behind `INSERT` or `UPDATE`, if it is said. -/
def conflictClause? : Parser Text := do
  let choice ← phrase? [["OR", "REPLACE"], ["OR", "ROLLBACK"], ["OR", "ABORT"], ["OR", "FAIL"],
    ["OR", "IGNORE"]]
  if !choice.isEmpty then return choice
  else if ← keyword? "REPLACE" then return " OR REPLACE".toList
  else return []

/-- What a conflict is about: columns or a constraint. -/
def conflictTarget? (g : Grammar) : Parser Text := do
  if ← keywords? ["ON", "CONSTRAINT"] then return clause "ON CONSTRAINT" (← objectNameText)
  else parenthesizedNames? g

/-- What happens to rows that are there already, if it is said. -/
def onConflict? (g : Grammar) : Parser Text := do
  if !(← keyword? "ON") then return []
  else if ← keyword? "CONFLICT" then
    let front := " ON CONFLICT".toList ++ (← conflictTarget? g)
    keyword "DO"
    if ← keyword? "NOTHING" then return front ++ " DO NOTHING".toList
    else
      keywords ["UPDATE", "SET"]
      let values ← assignments g
      return front ++ " DO UPDATE SET ".toList ++ values ++ (← clause? "WHERE" g.exprText)
  else
    keywords ["DUPLICATE", "KEY", "UPDATE"]
    return " ON DUPLICATE KEY UPDATE ".toList ++ (← assignments g)

/-! ### Changes -/

/-- Columns in parentheses, which may be none in MySQL; then they are left out. -/
def insertColumns? (g : Grammar) : Parser Text := do
  let isEmpty := isSymbol "(" (← peek) && isSymbol ")" (← peekAt 1)
  if g.dialect.name = .mysql ∧ isEmpty then
    modify (List.drop 2)
    return []
  else if ← peekSymbol "(" then parenthesizedNames g
  else return []

/-- The columns and the partition of new rows, each with a blank behind, if they are named. -/
def insertPlaces? (g : Grammar) : Parser Text := do
  if isSymbol "(" (← peek) && isKeyword "SELECT" (← peekAt 1) then return []
  else
    let columns ← insertColumns? g
    let partition ←
      if ← keyword? "PARTITION" then ("PARTITION ".toList ++ ·) <$> g.listInParens g.exprText
      else pure []
    return [columns, partition].flatMap fun text => if text.isEmpty then [] else text ++ [' ']

/-- New rows: values with their columns, a query, assignments, or default values. -/
def insertRows (g : Grammar) : Parser Text := do
  if ← keywords? ["DEFAULT", "VALUES"] then return "DEFAULT VALUES".toList
  else
    let places ← insertPlaces? g
    let isSet ← if g.dialect.name = .mysql then keyword? "SET" else pure false
    if isSet then return places ++ "SET ".toList ++ (← assignments g)
    else return places ++ (← g.queryText)

/-- New rows of a table, behind the words in front of it. -/
def insertTable (g : Grammar) (lead : Text) : Parser Text := do
  let name ← objectNameText
  let named ← textIf (g.dialect.name = .postgresql) (clause? "AS" identifierText)
  let rows ← insertRows g
  let second ←
    textIf (g.speaks [.mysql, .generic])
      (clause? "AS" do return (← objectNameText) ++ (← parenthesizedNames? g))
  let conflict ← onConflict? g
  return lead ++ ' ' :: name ++ named ++ ' ' :: rows ++ second ++ conflict ++ (← returning? g)

/-- The rows of a query that are written to a directory, behind the word. -/
def insertDirectory (g : Grammar) (lead : Text) : Parser Text := do
  let path ← rawQuotedText g
  let format ← clauseBehind? ["STORED", "AS"] fileFormat
  return lead ++ clause "DIRECTORY" path ++ format ++ ' ' :: (← g.queryText)

/-- New rows, behind the word. -/
def insert (g : Grammar) (word : Text) : Parser Text := do
  let choice ← conflictClause?
  let isMysql := g.speaks [.mysql, .generic]
  let priority ←
    if isMysql then oneOf? ["LOW_PRIORITY", "DELAYED", "HIGH_PRIORITY"] else pure none
  let ignoring ← textIf isMysql (phrase? [["IGNORE"]])
  let overwriting ← phrase? [["OVERWRITE"]]
  let into ← phrase? [["INTO"]]
  let nearby ← phrase? [["LOCAL"]]
  if ← keyword? "DIRECTORY" then insertDirectory g ("INSERT".toList ++ overwriting ++ nearby)
  else
    let table ← phrase? [["TABLE"]]
    -- A choice about conflicts is always written with `INTO`, and without the other words.
    if choice.isEmpty then
      insertTable g (word ++ markOf priority ++ ignoring ++ overwriting ++ into ++ table)
    else insertTable g ("INSERT".toList ++ choice ++ " INTO".toList)

/-- New values, behind the word. -/
def update (g : Grammar) : Parser Text := do
  let choice ← conflictClause?
  let target ← TableTree.render <$> tableTree g
  let tables : Parser Text := do return listed ((← source g).map TableTree.render)
  let early ← clause? "FROM" tables
  keyword "SET"
  let values ← assignments g
  let late ← if early.isEmpty then clause? "FROM" tables else pure []
  let condition ← clause? "WHERE" g.exprText
  let returned ← returning? g
  let limit ← clause? "LIMIT" g.exprText
  return "UPDATE".toList ++ choice ++ ' ' :: target ++ early ++ " SET ".toList ++ values ++ late ++
    condition ++ returned ++ limit

/-- Rows to remove, behind the word. -/
def delete (g : Grammar) : Parser Text := do
  let isDirect ← keyword? "FROM"
  let targets ←
    if isDirect || g.dialect.name == .generic then pure []
    else
      let names ← g.list objectNameText
      keyword "FROM"
      pure (' ' :: names)
  -- Without `FROM` the most permissive dialect takes the name as the table to delete from.
  let fromWord := mark "FROM" (isDirect || g.dialect.name != .generic)
  let tables := g.list (TableTree.render <$> tableTree g)
  let main ← tables
  let others ← clause? "USING" tables
  let condition ← clause? "WHERE" g.exprText
  let returned ← returning? g
  let order ← listClause? g "ORDER" "BY" (orderItem g)
  let limit ←
    if ← keyword? "LIMIT" then
      if ← keyword? "ALL" then pure [] else clause "LIMIT" <$> g.exprText
    else pure []
  return "DELETE".toList ++ targets ++ fromWord ++ ' ' :: main ++ others ++ condition ++ returned ++
    order ++ limit

/-! ### Merging -/

/-- What a merge does with rows that are in both tables. -/
def matchedAction (g : Grammar) : Parser Text := do
  if ← keyword? "DELETE" then return "DELETE".toList
  else
    keywords ["UPDATE", "SET"]
    return "UPDATE SET ".toList ++ (← assignments g)

/-- What a merge does with rows that are not in the target. -/
def unmatchedAction (g : Grammar) : Parser Text := do
  keyword "INSERT"
  let columns ← insertColumns? g
  let columns := if columns.isEmpty then [] else ' ' :: columns
  let isRow ← if g.dialect.name = .generic then keyword? "ROW" else pure false
  if isRow then return "INSERT".toList ++ columns ++ " ROW".toList
  else
    keyword "VALUES"
    let values ← rows g (g.dialect.name = .mysql)
    return "INSERT".toList ++ columns ++ " VALUES ".toList ++ values

/-- A case of a merge, if there is one. -/
def mergeCase? (g : Grammar) : Parser (Option Text) := do
  if !(← keyword? "WHEN") then return none
  else
    let isUnmatched ← keyword? "NOT"
    keyword "MATCHED"
    let side ←
      if isUnmatched then
        if ← keywords? ["BY", "SOURCE"] then pure " BY SOURCE".toList
        else pure (mark "BY TARGET" (← keywords? ["BY", "TARGET"]))
      else pure []
    let condition ← clause? "AND" g.exprText
    keyword "THEN"
    let inserts := isUnmatched && side != " BY SOURCE".toList
    let action ← if inserts then unmatchedAction g else matchedAction g
    let negation := if isUnmatched then "NOT ".toList else []
    return some
      (" WHEN ".toList ++ negation ++ "MATCHED".toList ++ side ++ condition ++ clause "THEN" action)

/-- What a merge gives back, and the table it goes into. -/
def mergeOutput? (g : Grammar) : Parser Text := do
  match ← oneOf? ["OUTPUT", "RETURNING"] with
  | none => return []
  | some word =>
      let items ← projection g
      let target ← textIf (word = "OUTPUT".toList) into?
      return ' ' :: word ++ ' ' :: items ++ if target.isEmpty then [] else ' ' :: target

/-- A merge of a table into another, behind the word. -/
def merge (g : Grammar) : Parser Text := do
  let into ← phrase? [["INTO"]]
  let target ← TableFactor.render <$> tableFactor g
  keyword "USING"
  let other ← TableFactor.render <$> tableFactor g
  keyword "ON"
  let condition ← g.exprText
  let cases ← repeated (mergeCase? g)
  let cases := if cases.isEmpty then [' '] else cases.flatten
  let output ← mergeOutput? g
  return "MERGE".toList ++ into ++ ' ' :: target ++ clause "USING" other ++ clause "ON" condition ++
    cases ++ output

/-- The change that starts with a word. -/
def change (g : Grammar) (word : Text) : Parser Text :=
  if word = "UPDATE".toList then update g
  else if word = "DELETE".toList then delete g
  else if word = "MERGE".toList then merge g
  else insert g word

end Parser

end Sql

end Pushdown
