/-
**Columns of a table.**

A column has a name, a type and properties: a default, a condition, a way to compute its values.
Inside a property `NOT NULL` is no test and `COLLATE` no operator: both belong to the column.

Main definitions:

* `Sql.Parser.sequenceOptions` — how numbers follow each other;
* `Sql.Parser.columnProperty?` — a property of a column;
* `Sql.Parser.columnDefinition` — a column.
-/

import Pushdown.Sql.Parser.Definition.Constraint

set_option autoImplicit false

namespace Pushdown

namespace Sql

namespace Parser

/-! ### Computed columns -/

/-- A number behind a word that may stand alone or with a further one. -/
def numberBehind? (g : Grammar) (word further : String) : Parser Text := do
  if ← keyword? word then
    let manner ← phrase? [[further]]
    return ' ' :: word.toList ++ manner ++ ' ' :: (← signedNumber g)
  else return []

/-- A bound of numbers, or that there is none, if it is said. -/
def boundBehind? (g : Grammar) (word : String) : Parser Text := do
  if ← keyword? word then return clause word (← signedNumber g)
  else phrase? [["NO", word]]

/-- How the numbers of a sequence follow each other, in this order. -/
def sequenceOptions (g : Grammar) : Parser Text := do
  let step ← numberBehind? g "INCREMENT" "BY"
  let least ← boundBehind? g "MINVALUE"
  let greatest ← boundBehind? g "MAXVALUE"
  let start ← numberBehind? g "START" "WITH"
  let cache ← clause? "CACHE" (signedNumber g)
  return step ++ least ++ greatest ++ start ++ cache ++ (← phrase? [["NO", "CYCLE"], ["CYCLE"]])

/-- The numbers of a column that counts its rows, behind the words. -/
def identityOptions (g : Grammar) : Parser Text := do
  if ← symbol? "(" then
    let options ← sequenceOptions g
    symbol ")"
    return if options.isEmpty then [] else " (".toList ++ options ++ " )".toList
  else return []

/-- A column that is computed from others, behind the words. -/
def computed (g : Grammar) : Parser Text := do
  let value ← parenthesized (g.placed .anywhere).exprText
  let manner ← phrase? [["STORED"]]
  let manner ←
    if !manner.isEmpty then pure manner
    else if g.dialect.name = .postgresql then fail
    else phrase? [["VIRTUAL"]]
  return "GENERATED ALWAYS AS ".toList ++ inParens value ++ manner

/-- How a column gets its values, behind `GENERATED`.  Words that do not go on are passed over. -/
def generated? (g : Grammar) : Parser (Option Text) := do
  if ← keywords? ["ALWAYS", "AS", "IDENTITY"] then
    return some ("GENERATED ALWAYS AS IDENTITY".toList ++ (← identityOptions g))
  else if ← keywords? ["BY", "DEFAULT", "AS", "IDENTITY"] then
    return some ("GENERATED BY DEFAULT AS IDENTITY".toList ++ (← identityOptions g))
  else if ← keywords? ["ALWAYS", "AS"] then
    if ← peekSymbol "(" then some <$> computed g else return none
  else return none

/-- A column that is computed from others, behind `AS`. -/
def shortComputed (g : Grammar) : Parser Text := do
  let value ← parenthesized (g.placed .column).exprText
  return "AS ".toList ++ inParens value ++ (← phrase? [["STORED"], ["VIRTUAL"]])

/-! ### Properties -/

/-- An expression in the definition of a column.  In parentheses it is an expression as anywhere. -/
def definingExpr (g : Grammar) : Parser Text := do
  if ← peekSymbol "(" then Expr.render <$> (g.placed .anywhere).prime
  else (g.placed .column).exprText

/-- A remark: a string in quotes or between dollar signs. -/
def remark : Parser Text := do
  match ← next with
  | .string .single content => return content
  | .string (.dollar _) content => return content
  | _ => fail

/-- The start and the step of a column that counts its rows, if they are given. -/
def identitySteps? (g : Grammar) : Parser Text := do
  if ← symbol? "(" then
    let start ← signedNumber g
    symbol ","
    let step ← signedNumber g
    symbol ")"
    return inParens (start ++ comma ++ step)
  else return []

/-- A property of a column that all dialects know, if there is one. -/
def plainProperty? (g : Grammar) : Parser (Option Text) := do
  if ← keywords? ["CHARACTER", "SET"] then
    return some ("CHARACTER SET ".toList ++ (← objectNameText))
  else if ← keyword? "COLLATE" then return some ("COLLATE ".toList ++ (← objectNameText))
  else if ← keywords? ["NOT", "NULL"] then return some "NOT NULL".toList
  else if ← keyword? "COMMENT" then return some ("COMMENT ".toList ++ quoted (← remark))
  else if ← keyword? "NULL" then return some "NULL".toList
  else if ← keyword? "DEFAULT" then return some ("DEFAULT ".toList ++ (← definingExpr g))
  else if ← keywordIf? (g.dialect.name == .generic) "MATERIALIZED" then
    return some ("MATERIALIZED ".toList ++ (← definingExpr g))
  else if ← keywordIf? (g.dialect.name == .generic) "ALIAS" then
    return some ("ALIAS ".toList ++ (← definingExpr g))
  else if ← keywordIf? (g.dialect.name == .generic) "EPHEMERAL" then
    if (← peekSymbol ",") || (← peekSymbol ")") then return some "EPHEMERAL".toList
    else return some ("EPHEMERAL ".toList ++ (← definingExpr g))
  else if ← keywords? ["PRIMARY", "KEY"] then
    return some ("PRIMARY KEY".toList ++ (← characteristics?))
  else if ← keyword? "UNIQUE" then return some ("UNIQUE".toList ++ (← characteristics?))
  else if ← keyword? "REFERENCES" then some <$> references g [' ']
  else if ← keyword? "CHECK" then some <$> check (g.placed .anywhere)
  else return none

/-- A property of a column that some dialects know, if there is one.  A word that the dialect does
not know is passed over, and what stands behind it may still be a property of these. -/
def ownProperty? (g : Grammar) : Parser (Option Text) := do
  let isGeneric := g.dialect.name == .generic
  if ← keywordWhere "AUTO_INCREMENT" (g.speaks [.mysql, .generic]) then
    return some "AUTO_INCREMENT".toList
  else if ← keywordWhere "AUTOINCREMENT" (g.speaks [.sqlite, .generic]) then
    return some "AUTOINCREMENT".toList
  else if ← keywordWhere "ASC" (g.speaks [.sqlite, .generic]) then return some "ASC".toList
  else if ← keywordWhere "DESC" (g.speaks [.sqlite, .generic]) then return some "DESC".toList
  else if ← keywordsWhere ["ON", "UPDATE"] (g.speaks [.mysql, .generic]) then
    return some ("ON UPDATE ".toList ++ (← definingExpr g))
  else if ← keyword? "GENERATED" then generated? g
  else if isGeneric && (← peekKeyword "OPTIONS") then
    skip
    return some ("OPTIONS".toList ++ (← g.anyInParens (tableOption (g.placed .column))))
  else if ← keywordWhere "AS" (g.speaks [.mysql, .sqlite, .duckdb, .generic]) then
    some <$> shortComputed g
  else if ← keywordWhere "SRID" (g.speaks [.mysql, .generic]) then
    return some ("SRID ".toList ++ (← definingExpr g))
  else if ← keywordWhere "IDENTITY" isGeneric then
    return some ("IDENTITY".toList ++ (← identitySteps? g))
  else if ← keywordsIf? (g.speaks [.sqlite, .generic]) ["ON", "CONFLICT"] then
    let action ← oneOf ["ROLLBACK", "ABORT", "FAIL", "IGNORE", "REPLACE"]
    return some ("ON CONFLICT ".toList ++ action)
  else if ← keyword? "INVISIBLE" then return some "INVISIBLE".toList
  else return none

/-- A property of a column without its name, if there is one. -/
def columnProperty? (g : Grammar) : Parser (Option Text) := do
  match ← plainProperty? g with
  | some text => return some text
  | none => ownProperty? g

/-- A property of a column with its name and a blank in front, if there is one. -/
def columnOption? (g : Grammar) : Parser (Option Text) := do
  let name ← constraintName?
  match ← columnProperty? g with
  | some text => return some (' ' :: name ++ text)
  | none => if name.isEmpty then return none else fail

/-! ### Columns -/

/-- Whether a token is a word. -/
def isWord : Option Token → Bool
  | some (.word _ _) => true
  | _ => false

/-- The type of a column with a blank in front; SQLite columns may have none. -/
def columnType (g : Grammar) : Parser Text := do
  let next ← peek
  -- A word that starts a property is no type.
  let isMissing := !isWord next ||
    isAnyKeyword ["CONSTRAINT", "PRIMARY", "NOT", "UNIQUE", "CHECK", "DEFAULT", "COLLATE",
      "REFERENCES", "GENERATED", "AS"] next
  if g.dialect.name = .sqlite ∧ isMissing then return []
  else return ' ' :: (← dataTypeText g)

/-- A column of a table. -/
def columnDefinition (g : Grammar) : Parser Text := do
  let name ← identifierText
  let type ← columnType g
  return name ++ type ++ (← repeated (columnOption? g)).flatten

end Parser

end Sql

end Pushdown
