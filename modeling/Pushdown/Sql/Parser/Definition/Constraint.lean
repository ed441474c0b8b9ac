/-
**Conditions on the rows of a table.**

A table may ask that columns are unique, that they refer to rows of another table, or that an
expression holds; indexes help to find rows and are written among the conditions.

Main definitions:

* `Sql.Parser.indexColumns`, `Sql.Parser.indexOptions` — the parts of an index;
* `Sql.Parser.characteristics?` — when a condition is checked;
* `Sql.Parser.references` — the rows of another table;
* `Sql.Parser.tableConstraint?` — a condition on a whole table.
-/

import Pushdown.Sql.Parser.Query

set_option autoImplicit false

namespace Pushdown

namespace Sql

namespace Parser

/-! ### Indexes -/

/-- The kind of an index. -/
def indexType : Parser Text := do
  match ← oneOf? ["BTREE", "HASH", "GIN", "GIST", "SPGIST", "BRIN", "BLOOM"] with
  | some word => return word
  | none => identifierText

/-- The kind of an index with a blank in front, if it is said. -/
def indexType? : Parser Text := clause? "USING" indexType

/-- A column of an index.  Behind it stands the class of operators that the index supports. -/
def indexColumn (g : Grammar) : Parser Text := do
  let value ← g.exprText
  let isOrdered := isAnyKeyword ["ASC", "DESC", "NULLS", "WITH"] (← peek)
  let operators ← if isOrdered then pure none else attempt objectNameText
  let options ← orderOptions
  let _ ← filling? g
  return value ++ markOf operators ++ options

/-- The columns of an index. -/
def indexColumns (g : Grammar) : Parser Text := g.listInParens (indexColumn g)

/-- An option of an index, if there is one. -/
def indexOption? (g : Grammar) : Parser (Option Text) := do
  if ← keyword? "USING" then return some ("USING ".toList ++ (← indexType))
  else if ← keyword? "COMMENT" then return some ("COMMENT ".toList ++ (← rawQuotedText g))
  else return none

/-- The options of an index, each with a blank in front. -/
def indexOptions (g : Grammar) : Parser Text := do
  return (← repeated (indexOption? g)).flatMap fun text => ' ' :: text

/-- The name of an index with a blank in front, if it has one. -/
def indexName? : Parser Text := return markOf (← attempt identifierText)

/-- What happens to nulls in unique columns, if it is said. -/
def nullsDistinct? : Parser Text := do
  if ← keyword? "NULLS" then
    let negation ← phrase? [["NOT"]]
    keyword "DISTINCT"
    return " NULLS".toList ++ negation ++ " DISTINCT".toList
  else return []

/-! ### References -/

/-- What happens to rows that refer to a changed row. -/
def referentialAction : Parser Text := do
  match ← phrase? [["SET", "NULL"], ["SET", "DEFAULT"], ["NO", "ACTION"], ["RESTRICT"],
      ["CASCADE"]] with
  | ' ' :: action => return action
  | _ => fail

/-- How references are followed: how they match, and what a change of the other row does. -/
structure Following where
  matching : Text := []
  deleting : Text := []
  updating : Text := []

/-- The text of how references are followed. -/
def Following.render (f : Following) : Text := f.matching ++ f.deleting ++ f.updating

/-- How references are followed, each part at most once and in any order, as far as there is
fuel. -/
def followingFrom : Nat → Following → Parser Following
  | 0, f => return f
  | fuel + 1, f => do
      if ← keywordIf? f.matching.isEmpty "MATCH" then
        let kind ← oneOf ["FULL", "PARTIAL", "SIMPLE"]
        followingFrom fuel { f with matching := clause "MATCH" kind }
      else if ← keywordsIf? f.deleting.isEmpty ["ON", "DELETE"] then
        followingFrom fuel { f with deleting := clause "ON DELETE" (← referentialAction) }
      else if ← keywordsIf? f.updating.isEmpty ["ON", "UPDATE"] then
        followingFrom fuel { f with updating := clause "ON UPDATE" (← referentialAction) }
      else return f

/-- When a condition is checked: whether that may be put off, at first, and at all. -/
structure Checking where
  deferring : Text := []
  start : Text := []
  enforcing : Text := []

/-- When a condition is checked, each part at most once and in any order, as far as there is
fuel. -/
def checkingFrom : Nat → Checking → Parser Checking
  | 0, c => return c
  | fuel + 1, c => do
      let deferring ← textIf c.deferring.isEmpty (phrase? [["NOT", "DEFERRABLE"], ["DEFERRABLE"]])
      if !deferring.isEmpty then checkingFrom fuel { c with deferring := deferring }
      else if ← keywordIf? c.start.isEmpty "INITIALLY" then
        let manner ← oneOf ["DEFERRED", "IMMEDIATE"]
        checkingFrom fuel { c with start := clause "INITIALLY" manner }
      else
        let enforcing ← textIf c.enforcing.isEmpty (phrase? [["ENFORCED"], ["NOT", "ENFORCED"]])
        if enforcing.isEmpty then return c
        else checkingFrom fuel { c with enforcing := enforcing }

/-- When a condition is checked, if it is said. -/
def characteristics? : Parser Text := do
  let c ← checkingFrom 4 {}
  return c.deferring ++ c.start ++ c.enforcing

/-- A table and its columns that others refer to, behind the word; `gap` stands between them. -/
def references (g : Grammar) (gap : Text) : Parser Text := do
  let name ← objectNameText
  let columns ← if ← peekSymbol "(" then (gap ++ ·) <$> parenthesizedNames g else pure []
  let following ← followingFrom 4 {}
  return "REFERENCES ".toList ++ name ++ columns ++ following.render ++ (← characteristics?)

/-! ### Conditions -/

/-- The name of a condition with a blank behind, if it has one. -/
def constraintName? : Parser Text := do
  if ← keyword? "CONSTRAINT" then
    return "CONSTRAINT ".toList ++ (← identifierText) ++ [' ']
  else return []

/-- A condition on each row, behind the word. -/
def check (g : Grammar) : Parser Text := do
  let condition ← parenthesized g.exprText
  return "CHECK ".toList ++ inParens condition ++ (← phrase? [["ENFORCED"], ["NOT", "ENFORCED"]])

/-- The index of a unique or primary key: its name, its kind, its columns and its options. -/
def keyIndex (g : Grammar) : Parser Text := do
  let name ← indexName?
  let type ← indexType?
  let columns ← indexColumns g
  let options ← indexOptions g
  return name ++ type ++ ' ' :: columns ++ options ++ (← characteristics?)

/-- Columns that are unique, behind the word. -/
def uniqueKey (g : Grammar) : Parser Text := do
  let word := markOf (← oneOf? ["KEY", "INDEX"])
  if !word.isEmpty && !g.speaks [.generic, .mysql] then fail
  let nulls ← nullsDistinct?
  return "UNIQUE".toList ++ nulls ++ word ++ (← keyIndex g)

/-- Columns that refer to another table, behind the words. -/
def foreignKey (g : Grammar) : Parser Text := do
  let name ← indexName?
  let columns ← parenthesizedNames g
  keyword "REFERENCES"
  return "FOREIGN KEY".toList ++ name ++ ' ' :: columns ++ ' ' :: (← references g [])

/-- An index of a table, behind its word. -/
def plainIndex (g : Grammar) (word : Text) : Parser Text := do
  let name ← if ← peekKeyword "USING" then pure [] else indexName?
  let type ← indexType?
  let columns ← indexColumns g
  let options ← repeated (indexOption? g)
  let options := if options.isEmpty then [] else ' ' :: listed options
  return word ++ name ++ type ++ ' ' :: columns ++ options

/-- An index for searching in texts or in space, behind its word. -/
def searchIndex (g : Grammar) (word : Text) : Parser Text := do
  let kind := markOf (← oneOf? ["KEY", "INDEX"])
  let name ← indexName?
  return word ++ kind ++ name ++ ' ' :: (← indexColumns g)

/-- A condition on a whole table, if there is one. -/
def tableConstraint? (g : Grammar) : Parser (Option Text) := do
  let lead ← constraintName?
  let hasIndexes := g.speaks [.mysql, .generic]
  if ← keyword? "UNIQUE" then return some (lead ++ (← uniqueKey g))
  else if ← keyword? "PRIMARY" then
    keyword "KEY"
    return some (lead ++ "PRIMARY KEY".toList ++ (← keyIndex g))
  else if ← keyword? "FOREIGN" then
    keyword "KEY"
    return some (lead ++ (← foreignKey g))
  else if ← keyword? "CHECK" then return some (lead ++ (← check g))
  else if !lead.isEmpty then fail
  else if !hasIndexes then return none
  else
    match ← oneOf? ["INDEX", "KEY"] with
    | some word => some <$> plainIndex g word
    | none =>
        match ← oneOf? ["FULLTEXT", "SPATIAL"] with
        | some word => some <$> searchIndex g word
        | none => return none

end Parser

end Sql

end Pushdown
