/-
**Selects of SQL.**

A select says which columns are wanted, of which tables, under which condition, and how the rows are
grouped.

Main definitions:

* `Sql.Parser.selectItem` — a selected column;
* `Sql.Parser.source` — the tables behind `FROM`;
* `Sql.Parser.select` — a select.
-/

import Pushdown.Sql.Parser.Table

set_option autoImplicit false

namespace Pushdown

namespace Sql

namespace Parser

/-! ### Selected columns -/

/-- Names in parentheses or a single one, with what is in parentheses written in them. -/
def someNames (g : Grammar) : Parser Text := do
  if ← peekSymbol "(" then parenthesizedNames g else identifierText

/-- Names in parentheses or a single one, always written in parentheses. -/
def namesInParens (g : Grammar) : Parser Text := do
  if ← peekSymbol "(" then parenthesizedNames g else inParens <$> identifierText

/-- A pattern that the selected columns fit, behind its word. -/
def starPattern : Parser Text := do
  match ← next with
  | .string .single content => return quoted content
  | _ => fail

/-- An expression that takes the place of a column. -/
def replacement (g : Grammar) : Parser Text := do
  let value ← g.exprText
  let explicit ← phrase? [["AS"]]
  return value ++ explicit ++ ' ' :: (← identifierText)

/-- A name and the name it gets. -/
def renamedColumn : Parser Text := do
  let name ← identifierText
  keyword "AS"
  return name ++ clause "AS" (← identifierText)

/-- One renamed column, or several in parentheses. -/
def renamedColumns (g : Grammar) : Parser Text := do
  if ← peekSymbol "(" then g.listInParens renamedColumn else renamedColumn

/-- What may follow a star. -/
def starOptions (g : Grammar) : Parser Text := do
  let d := g.dialect
  let isGeneric := d.name == .generic
  let pattern ← textIf isGeneric (clause? "ILIKE" starPattern)
  let excluded ← textIf (d.excludeColumns && pattern.isEmpty) (clause? "EXCLUDE" (someNames g))
  let excepted ← textIf d.exceptColumns (clause? "EXCEPT" (namesInParens g))
  let replaced ←
    textIf (g.speaks [.generic, .duckdb]) (clause? "REPLACE" (g.listInParens (replacement g)))
  let renamed ← textIf isGeneric (clause? "RENAME" (renamedColumns g))
  return pattern ++ excluded ++ excepted ++ replaced ++ renamed

/-- Whether an expression is the word `FROM`, which is no column. -/
def isFromWord : Expr → Bool
  | .ident name => name.keyword? == some "FROM".toList
  | _ => false

/-- A selected column. -/
def selectItem (g : Grammar) : Parser Text := do
  match ← wildcardOr g with
  | .inl star => return star ++ (← starOptions g)
  | .inr e =>
      if isFromWord e then fail
      else
        match ← columnAlias? with
        | some name => return e.render ++ clause "AS" name.render
        | none => return e.render

/-- The columns that rows differ in behind `DISTINCT`, if they are named. -/
def distinctColumns? (g : Grammar) : Parser Text := do
  if ← keyword? "ON" then
    symbol "("
    let columns ← if ← peekSymbol ")" then pure [] else g.exprTexts
    symbol ")"
    return " ON ".toList ++ inParens (listed columns)
  else return []

/-- `DISTINCT`, if it is there.  `ALL` is what is meant without a word. -/
def distinct? (g : Grammar) : Parser Text := do
  let isAll ← keyword? "ALL"
  if !(← keyword? "DISTINCT") then return []
  else if isAll then fail
  else return "DISTINCT".toList ++ (← distinctColumns? g)

/-- The number of rows behind `TOP`, if it is there. -/
def top? (g : Grammar) : Parser Text := do
  if ← keyword? "TOP" then
    let amount ←
      if ← peekSymbol "(" then inParens <$> parenthesized g.exprText else natural
    let percent ← phrase? [["PERCENT"]]
    let ties := mark "WITH TIES" (← keywords? ["WITH", "TIES"])
    return "TOP ".toList ++ amount ++ percent ++ ties
  else return []

/-- The table that the rows go into. -/
def into? : Parser Text := do
  if ← keyword? "INTO" then
    let temporary := mark "TEMPORARY" (← oneOf? ["TEMPORARY", "TEMP"]).isSome
    let logged ← phrase? [["UNLOGGED"]]
    let word ← phrase? [["TABLE"]]
    return "INTO".toList ++ temporary ++ logged ++ word ++ ' ' :: (← objectNameText)
  else return []

/-- Selected columns; in some dialects a comma may stand behind the last one. -/
def projection (g : Grammar) : Parser Text := do
  let trailing := g.dialect.trailingCommas || g.dialect.name == .generic
  return listed (← listOf trailing (selectItem g))

/-- What is selected, behind the word `SELECT`. -/
def selection (g : Grammar) : Parser Text := do
  let distinct ← distinct? g
  let top ← top? g
  let empty ← if g.dialect.emptyProjections then peekKeyword "FROM" else pure false
  let items ← if empty then pure [] else projection g
  return spaced ["SELECT".toList, distinct, top, items, ← into?]

/-! ### Groups and windows -/

/-- Expressions in parentheses, of which there may be none, or a single expression. -/
def groupingSet (g : Grammar) : Parser (List Text) := do
  if ← symbol? "(" then
    let items ← commaSeparatedUnless g.dialect ")" g.exprText
    symbol ")"
    return items
  else return [← g.exprText]

/-- The sets of columns behind `GROUPING SETS`. -/
def groupingSets (g : Grammar) : Parser Text := do
  let sets ← parenthesized (commaSeparated g.dialect (groupingSet g))
  return "GROUPING SETS ".toList ++ inParens (listed (sets.map fun s => inParens (listed s)))

/-- A set of `CUBE` or `ROLLUP`. -/
def renderSet : List Text → Text
  | [item] => item
  | items => inParens (listed items)

/-- An element of a grouping. -/
def groupItem (g : Grammar) : Parser Text := do
  if !g.dialect.groupingSets then g.exprText
  else if ← keywords? ["GROUPING", "SETS"] then groupingSets g
  else
    let token ← peek
    if isAnyKeyword ["CUBE", "ROLLUP"] token then
      skip
      let sets ← parenthesized (commaSeparated g.dialect (groupingSet g))
      return (keywordOf? token).getD [] ++ ' ' :: inParens (listed (sets.map renderSet))
    else if isSymbol "(" token && isSymbol ")" (← peekAt 1) then
      skip
      skip
      return inParens []
    else g.exprText

/-- What may follow a grouping behind `WITH`. -/
def groupModifier? (g : Grammar) : Parser (Option Text) := do
  if ← keywordIf? g.dialect.groupModifiers "WITH" then
    return some (" WITH ".toList ++ (← oneOf ["ROLLUP", "CUBE", "TOTALS"]))
  else return none

/-- The grouping of a select, if it has one. -/
def groupBy? (g : Grammar) : Parser Text := do
  if ← keywords? ["GROUP", "BY"] then
    let items ← if ← keyword? "ALL" then pure "ALL".toList else g.list (groupItem g)
    let modifiers ← repeated (groupModifier? g)
    let sets ← if ← keywords? ["GROUPING", "SETS"] then (' ' :: ·) <$> groupingSets g else pure []
    return clause "GROUP BY" items ++ modifiers.flatten ++ sets
  else return []

/-- A window with its name, or in some dialects the name of another one. -/
def namedWindow (g : Grammar) : Parser Text := do
  let name ← identifierText
  keyword "AS"
  if ← symbol? "(" then return name ++ clause "AS" (inParens (← windowSpec g))
  else if g.dialect.name = .generic then return name ++ clause "AS" (← identifierText)
  else fail

/-- A list behind two keywords with a blank in front, if they are there. -/
def listClause? (g : Grammar) (first second : String) (p : Parser Text) : Parser Text := do
  let list ← listBehind g [first, second] p
  return if list.isEmpty then [] else ' ' :: list

/-- The windows of a select and a condition on them, in either order. -/
def windows? (g : Grammar) : Parser Text := do
  let first ← clause? "WINDOW" (g.list (namedWindow g))
  let condition ← clause? "QUALIFY" g.exprText
  let second ←
    if first.isEmpty ∧ !condition.isEmpty then clause? "WINDOW" (g.list (namedWindow g))
    else pure []
  return first ++ condition ++ second

/-! ### Hierarchies -/

/-- The rows that a hierarchy starts with. -/
def startWith (g : Grammar) : Parser Text := do
  keywords ["START", "WITH"]
  return " START WITH ".toList ++ (← g.exprText)

/-- How the rows of a hierarchy are connected. -/
def connectBy (g : Grammar) : Parser Text := do
  keywords ["CONNECT", "BY"]
  return " CONNECT BY ".toList ++ (← (g.placed .hierarchy).list (g.placed .hierarchy).exprText)

/-- The hierarchy of the rows, if there is one; its two parts stand in either order. -/
def hierarchy? (g : Grammar) : Parser Text := do
  let token ← peek
  if g.dialect.name = .generic && isKeyword "CONNECT" token then
    let connection ← connectBy g
    return (← startWith g) ++ connection
  else if g.dialect.name = .generic && isKeyword "START" token then
    return (← startWith g) ++ (← connectBy g)
  else return []

/-! ### Selects -/

/-- A second name behind a lateral view. -/
def viewColumn : Parser (Option Ident) := do
  return (← aliasUnless ["WHERE", "GROUP", "CLUSTER", "HAVING", "LATERAL"]).map Prod.snd

/-- A lateral view, if there is one. -/
def lateralView? (g : Grammar) : Parser (Option Text) := do
  if ← keywords? ["LATERAL", "VIEW"] then
    let outer ← phrase? [["OUTER"]]
    let source ← g.exprText
    let name ← objectNameText
    let columns := (← commaSeparated g.dialect viewColumn).filterMap fun c => c.map Ident.render
    let names := if columns.isEmpty then [] else clause "AS" (listed columns)
    return some (" LATERAL VIEW".toList ++ outer ++ ' ' :: source ++ ' ' :: name ++ names)
  else return none

/-- Tables with their joins; a comma at the end is allowed in no dialect. -/
def source (g : Grammar) : Parser (List TableTree) := listOf false (tableTree g)

/-- A select behind its columns and tables. -/
def selectTail (g : Grammar) (fromFirst : Bool) (head : Text) (tables : List TableTree) :
    Parser Select := do
  -- Everything that is no condition is kept as text in front of or behind the condition.
  let views ← repeated (lateralView? g)
  let before ← textIf (g.dialect.name = .generic) (clause? "PREWHERE" g.exprText)
  let condition ← if ← keyword? "WHERE" then some <$> g.expr else pure none
  let groups ← groupBy? g
  let clusters ← listClause? g "CLUSTER" "BY" g.exprText
  let shares ← listClause? g "DISTRIBUTE" "BY" g.exprText
  let sorting ← listClause? g "SORT" "BY" (orderItem g)
  let having ← clause? "HAVING" g.exprText
  let windows ← windows? g
  let hierarchy ← hierarchy? g
  return .mk fromFirst head tables (views.flatten ++ before) condition
    (groups ++ clusters ++ shares ++ sorting ++ having ++ windows ++ hierarchy)

/-- A select. -/
def select (g : Grammar) : Parser Select := do
  let fromFirst ← if g.dialect.fromFirst then keyword? "FROM" else pure false
  if fromFirst then
    let tables ← source g
    if ← keyword? "SELECT" then selectTail g true (← selection g) tables
    else return .mk true [] tables [] none []
  else
    keyword "SELECT"
    let head ← selection g
    let tables ← if ← keyword? "FROM" then source g else pure []
    selectTail g false head tables

end Parser

end Sql

end Pushdown
