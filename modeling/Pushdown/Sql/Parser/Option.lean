/-
**Options in SQL.**

Options stand in parentheses: keys with their values, and words on how the rows of a table are
stored.

Main definitions:

* `Sql.Parser.keyValue` — a key and its value;
* `Sql.Parser.tableOption` — an option of a table;
* `Sql.Parser.options?` — options in parentheses.
-/

import Pushdown.Sql.Parser.Name

set_option autoImplicit false

namespace Pushdown

namespace Sql

namespace Parser

/-- The format of a file. -/
def fileFormat : Parser Text :=
  oneOf ["AVRO", "JSONFILE", "ORC", "PARQUET", "RCFILE", "SEQUENCEFILE", "TEXTFILE"]

/-- A key and its value with an equals sign between. -/
def keyValue (g : Grammar) : Parser Text := do
  let key ← identifierText
  symbol "="
  return key ++ " = ".toList ++ (← g.exprText)

/-- The values at which a table is divided, behind the word. -/
def dividingValues (g : Grammar) : Parser Text := do
  let inner ← parenthesized do
    let column ← identifierText
    keyword "RANGE"
    let side ← phrase? [["LEFT"], ["RIGHT"]]
    keywords ["FOR", "VALUES"]
    return column ++ " RANGE".toList ++ side ++ " FOR VALUES ".toList ++
      (← g.listInParens g.exprText)
  return "PARTITION ".toList ++ inParens inner

/-- How a table is clustered, behind the word. -/
def clustering (g : Grammar) : Parser Text := do
  if ← keywords? ["COLUMNSTORE", "INDEX", "ORDER"] then
    return "CLUSTERED COLUMNSTORE INDEX ORDER ".toList ++ (← g.listInParens identifierText)
  else if ← keywords? ["COLUMNSTORE", "INDEX"] then
    return "CLUSTERED COLUMNSTORE INDEX".toList
  else
    keyword "INDEX"
    let columns ← g.listInParens do
      let name ← identifierText
      return name ++ markOf (← oneOf? ["ASC", "DESC"])
    return "CLUSTERED INDEX ".toList ++ columns

/-- An option of a table: a key and its value, or a word on how its rows are stored. -/
def tableOption (g : Grammar) : Parser Text := do
  if g.dialect.name != .generic then keyValue g
  else if ← peekKeyword "HEAP" then identifierText
  else if ← keyword? "PARTITION" then dividingValues g
  else if ← keyword? "CLUSTERED" then clustering g
  else keyValue g

/-- Options in parentheses behind a word, with a blank in front, if they are there. -/
def options? (g : Grammar) (word : String) : Parser Text := do
  if ← keyword? word then return ' ' :: word.toList ++ (← g.anyInParens (tableOption g))
  else return []

end Parser

end Sql

end Pushdown
