/-
**Tables in SQL.**

Behind `FROM` stand tables with what is joined to them: tables by name, queries in parentheses,
joins in parentheses, and functions that give tables.

Main definitions:

* `Sql.Parser.tableFactor` — a table;
* `Sql.Parser.join?` — a join;
* `Sql.Parser.tableTree` — a table with its joins.
-/

import Pushdown.Sql.Parser.Expression
import Pushdown.Sql.Parser.Table.Document
import Pushdown.Sql.Parser.Table.Pivot
import Pushdown.Sql.Parser.Table.Recognition
import Pushdown.Sql.Parser.Table.Sample

set_option autoImplicit false

namespace Pushdown

namespace Sql

namespace Parser

/-! ### Tables in parentheses -/

/-- A query as a table, behind the opening parenthesis. -/
def derived (g : Grammar) (lateral : Bool) : Parser TableFactor := do
  let query ← g.query
  symbol ")"
  return .derived lateral query (← tableAlias? g)

/-- Whether a table is a join in parentheses. -/
def isJoined : TableFactor → Bool
  | .joined _ _ => true
  | _ => false

/-- The table with a second name, if it has none; a table has at most one. -/
def renamed (table : TableFactor) (name : Alias) : Parser TableFactor :=
  match table with
  | .table parts middle none tail => return .table parts middle (some name) tail
  | .derived lateral query none => return .derived lateral query (some name)
  | .joined tree none => return .joined tree (some name)
  | .other text none tail => return .other text (some name) tail
  | _ => fail

/-- A join in parentheses, or a single table where the dialect allows it, behind the opening
parenthesis. -/
def joinedTables (g : Grammar) : Parser TableFactor := do
  let tree ← g.tableTree
  match tree with
  | .mk relation joins =>
      if !joins.isEmpty || isJoined relation then
        symbol ")"
        return .joined tree (← tableAlias? g)
      else if g.dialect.parenthesizedTables then
        symbol ")"
        match ← tableAlias? g with
        | none => return relation
        | some name => renamed relation name
      else fail

/-! ### Tables by function -/

/-- A setting of a table function. -/
def functionSetting (g : Grammar) : Parser Text := do
  let name ← identifierText
  symbol "="
  return name ++ " = ".toList ++ (← g.exprText)

/-- The settings of a table function, if they are given. -/
def functionSettings? (g : Grammar) : Parser (Option Text) := do
  if ← keywordIf? (g.dialect.name == .generic) "SETTINGS" then
    return some ("SETTINGS ".toList ++ (← g.list (functionSetting g)))
  else return none

/-- The arguments of a table function and then its settings, at most as many as there is fuel. -/
def tableArgumentsFrom (g : Grammar) : Nat → Parser (List Text)
  | 0 => fail
  | fuel + 1 => do
      match ← functionSettings? g with
      | some text => return [text]
      | none =>
          let first ← argument g
          if ← listGoesOn g.dialect.trailingCommas then
            return first :: (← tableArgumentsFrom g fuel)
          else return [first]

/-- A list of arguments of a table function behind the opening parenthesis, up to and with the
closing one. -/
def tableArguments (g : Grammar) : Parser Text := do
  if ← symbol? ")" then return inParens []
  else
    let items ← tableArgumentsFrom g ((← get).length + 1)
    symbol ")"
    return inParens (listed items)

/-- A list of arguments without settings behind the opening parenthesis, up to and with the closing
one. -/
def plainArguments (g : Grammar) : Parser Text := do
  if ← symbol? ")" then return inParens []
  else
    let items ← g.list (argument g)
    symbol ")"
    return inParens items

/-- A table that may look at the tables in front of it, behind its word. -/
def lateral (g : Grammar) : Parser TableFactor := do
  if ← symbol? "(" then derived g true
  else
    let name ← objectNameText
    symbol "("
    let arguments ← plainArguments g
    return .other ("LATERAL ".toList ++ name ++ arguments) (← tableAlias? g) []

/-- An expression that gives a table, behind its word. -/
def tableFunction (g : Grammar) : Parser TableFactor := do
  let inner ← parenthesized g.exprText
  return .other ("TABLE".toList ++ inParens inner) (← tableAlias? g) []

/-- `WITH ORDINALITY`, if it is there. -/
def ordinality? : Parser Text :=
  return mark "WITH ORDINALITY" (← keywords? ["WITH", "ORDINALITY"])

/-- The elements of arrays as a table, behind its word. -/
def unnest (g : Grammar) : Parser TableFactor := do
  let inner ← parenthesized (g.list g.exprText)
  let ordinality ← ordinality?
  let aliasName ← tableAlias? g
  -- The word `WITH` in front of another word is passed over.
  let isFollowed ← keyword? "WITH"
  let offset ← if isFollowed then keyword? "OFFSET" else pure false
  let offsetName ← if offset then columnAlias? else pure none
  return .other ("UNNEST".toList ++ inParens inner ++ ordinality) aliasName
    (mark "WITH OFFSET" offset ++ markOf (offsetName.map Ident.render))

/-- A row of values, and whether the word `ROW` stands in front.  In MySQL it may be empty. -/
def row (g : Grammar) (mayBeEmpty : Bool) : Parser (Bool × Text) := do
  let marked ← keyword? "ROW"
  symbol "("
  let items ←
    if mayBeEmpty ∧ (← peekSymbol ")") then pure [] else g.exprTexts
  symbol ")"
  return (marked, inParens (listed items))

/-- Rows of values behind their word.  If one of them is marked with `ROW`, all are. -/
def rows (g : Grammar) (mayBeEmpty : Bool) : Parser Text := do
  let rows ← commaSeparated g.dialect (row g mayBeEmpty)
  let word := if rows.any Prod.fst then "ROW".toList else []
  return listed (rows.map fun r => word ++ r.2)

/-- Rows of values as a table. -/
def valuesTable (g : Grammar) : Parser TableFactor := do
  keyword "VALUES"
  let body : SetExpr := .other ("VALUES ".toList ++ (← rows g false))
  return .derived false (.mk false [] body []) (← tableAlias? g)

/-! ### Tables by name -/

/-- A hint which index to use. -/
def indexHint? (g : Grammar) : Parser (Option Text) := do
  match ← oneOf? ["USE", "IGNORE", "FORCE"] with
  | none => return none
  | some word =>
      let kind ← oneOf ["INDEX", "KEY"]
      let purpose ←
        if ← keyword? "FOR" then
          if ← keyword? "JOIN" then pure "FOR JOIN ".toList
          else if ← keywords? ["ORDER", "BY"] then pure "FOR ORDER BY ".toList
          else
            keywords ["GROUP", "BY"]
            pure "FOR GROUP BY ".toList
        else pure []
      let names ← parenthesized (commaSeparatedUnless g.dialect ")" identifierText)
      return some (' ' :: word ++ ' ' :: kind ++ ' ' :: purpose ++ inParens (listed names))

/-- Hints in parentheses behind `WITH`, if they are there. -/
def withHints? (g : Grammar) : Parser Text := do
  if isKeyword "WITH" (← peek) && isSymbol "(" (← peekAt 1) then
    skip
    return clause "WITH" (inParens (← parenthesized (g.list g.exprText)))
  else return []

/-- A table by name. -/
def namedTable (g : Grammar) : Parser TableFactor := do
  let name ← objectName
  let partitions ←
    if g.speaks [.mysql, .generic] then
      -- The partitions are written directly behind the name.
      if ← keyword? "PARTITION" then ("PARTITION ".toList ++ ·) <$> parenthesizedNames g
      else pure []
    else pure []
  let arguments ← if ← symbol? "(" then tableArguments g else pure []
  let ordinality ← ordinality?
  let aliasName ← tableAlias? g
  let hints ←
    if g.dialect.name = .mysql then
      (fun found => (found.getD []).flatten) <$> attempt (repeated (indexHint? g))
    else pure []
  let options ← withHints? g
  let sample ← sample? g
  let table := .table name (partitions ++ arguments ++ ordinality) aliasName
    (hints ++ options ++ sample)
  recognized g (← turned g table)

/-- A table. -/
def tableFactor (g : Grammar) : Parser TableFactor := do
  if ← keyword? "LATERAL" then lateral g
  else if ← keyword? "TABLE" then tableFunction g
  else if ← symbol? "(" then
    -- A parenthesis opens a query or a join; a query is tried first.
    match ← attempt (derived g false) with
    | some table => turned g table
    | none => joinedTables g
  else
    let first ← peek
    let opens := isSymbol "(" (← peekAt 1)
    if g.dialect.valuesTables && isKeyword "VALUES" first && opens then valuesTable g
    else if g.dialect.unnestTables && isKeyword "UNNEST" first then
      skip
      unnest g
    else
      match ← documentTable? g with
      | some table => return table
      | none => namedTable g

/-! ### Joins -/

/-- The words of a join behind a possible `NATURAL`, if they are there. -/
def joinKind? : Parser (Option Text) := do
  if ← keyword? "JOIN" then return some "JOIN".toList
  else if ← keyword? "INNER" then
    keyword "JOIN"
    return some "INNER JOIN".toList
  else if ← keyword? "STRAIGHT_JOIN" then return some "STRAIGHT_JOIN".toList
  else if ← keyword? "FULL" then
    let _ ← keyword? "OUTER"
    keyword "JOIN"
    return some "FULL JOIN".toList
  else
    match ← oneOf? ["LEFT", "RIGHT"] with
    | some side =>
        let kind ← oneOf? ["OUTER", "SEMI", "ANTI"]
        keyword "JOIN"
        return some (side ++ markOf kind ++ " JOIN".toList)
    | none =>
        match ← oneOf? ["SEMI", "ANTI"] with
        | some kind =>
            keyword "JOIN"
            return some (kind ++ " JOIN".toList)
        | none => return none

/-- The words of a join to the closest row, if they are there. -/
def closestKind? : Parser (Option Text) := do
  if ← keyword? "ASOF" then
    keyword "JOIN"
    return some "ASOF JOIN".toList
  else return none

/-- The words of a join with every row, if they are there. -/
def crossKind? : Parser (Option Text) := do
  if ← keyword? "CROSS" then return some ("CROSS ".toList ++ (← oneOf ["JOIN", "APPLY"]))
  else if ← keyword? "OUTER" then
    keyword "APPLY"
    return some "OUTER APPLY".toList
  else return none

/-- The condition of a join, if it may have one. -/
def joinConstraint (g : Grammar) (unconditional : Bool) : Parser Text := do
  if unconditional then return []
  else if ← keyword? "ON" then return clause "ON" (← g.exprText)
  else if ← keyword? "USING" then
    return " USING".toList ++ inParens (← parenthesized (g.list objectNameText))
  else return []

/-- A join of rows that fit, if there is one; `globally` stands in front of it. -/
def regularJoin? (g : Grammar) (globally : Text) : Parser (Option Join) := do
  let natural ← keyword? "NATURAL"
  match ← joinKind? with
  | some kind =>
      let relation ← tableFactor g
      -- A straight join is never marked as natural, though it has no condition then.
      let marked := natural && kind != "STRAIGHT_JOIN".toList
      let lead := globally ++ if marked then "NATURAL ".toList else []
      return some (.mk (lead ++ kind) relation (← joinConstraint g natural))
  | none => if natural then fail else return none

/-- A join, if there is one.  The word `GLOBAL` in front of no join is passed over. -/
def join? (g : Grammar) : Parser (Option Join) := do
  let globally := if ← keyword? "GLOBAL" then "GLOBAL ".toList else []
  match ← crossKind? with
  | some kind =>
      let relation ← tableFactor g
      let constrained := kind = "CROSS JOIN".toList ∧ g.dialect.name = .mysql
      let constraint ← joinConstraint g (!constrained)
      return some (.mk (globally ++ kind) relation constraint)
  | none =>
      match ← closestKind? with
      | some kind =>
          let relation ← tableFactor g
          keyword "MATCH_CONDITION"
          let matching := " MATCH_CONDITION ".toList ++ inParens (← parenthesized g.exprText)
          return some (.mk (globally ++ kind) relation (matching ++ (← joinConstraint g false)))
      | none => regularJoin? g globally

/-- A table with its joins. -/
def tableTree (g : Grammar) : Parser TableTree := do
  return .mk (← tableFactor g) (← repeated (join? g))

end Parser

end Sql

end Pushdown
