/-
**Definitions of indexes.**

An index helps to find the rows of a table by the values of its columns.

Main definitions:

* `Sql.Parser.lockingChoice?` — how a change of a table is made;
* `Sql.Parser.createIndex`, `Sql.Parser.alterIndex` — a new index and a changed one.
-/

import Pushdown.Sql.Parser.Definition.Table

set_option autoImplicit false

namespace Pushdown

namespace Sql

namespace Parser

/-- An equals sign with a blank behind, if it is there. -/
def equals? : Parser Text := do
  if ← symbol? "=" then return "= ".toList else return []

/-- How a change of a table is made and what it locks, if it is said. -/
def lockingChoice? : Parser (Option Text) := do
  if ← keyword? "LOCK" then
    let sign ← equals?
    return some ("LOCK ".toList ++ sign ++ (← oneOf ["DEFAULT", "EXCLUSIVE", "NONE", "SHARED"]))
  else if ← keyword? "ALGORITHM" then
    let sign ← equals?
    let manner ← oneOf ["DEFAULT", "INSTANT", "INPLACE", "COPY"]
    return some ("ALGORITHM ".toList ++ sign ++ manner)
  else return none

/-- A new index, behind the word.  Of two kinds of an index the second counts. -/
def createIndex (g : Grammar) (lead : Text) : Parser Text := do
  let concurrently ← phrase? [["CONCURRENTLY"]]
  let guard ← unlessExists?
  let isNamed ← if guard.isEmpty then Bool.not <$> peekKeyword "ON" else pure true
  let name ← if isNamed then (' ' :: ·) <$> objectNameText else pure []
  let early ← textIf isNamed indexType?
  keyword "ON"
  let table ← objectNameText
  let late ← indexType?
  let kind := if late.isEmpty then early else late
  let kind := if kind.isEmpty then [] else kind ++ [' ']
  let columns ← indexColumns g
  let included ← clause? "INCLUDE" (parenthesizedNames g)
  let nulls ← nullsDistinct?
  let settings ←
    textIf (g.speaks [.postgresql, .generic]) (clause? "WITH" (g.listInParens g.exprText))
  let condition ← clause? "WHERE" g.exprText
  let options ← indexOptions g
  let choices ← repeated lockingChoice?
  return lead ++ "INDEX".toList ++ concurrently ++ guard ++ name ++ clause "ON" table ++ kind ++
    columns ++ included ++ nulls ++ settings ++ condition ++ options ++
    choices.flatMap fun text => ' ' :: text

/-- A changed index, behind the word. -/
def alterIndex : Parser Text := do
  let name ← objectNameText
  keywords ["RENAME", "TO"]
  return "ALTER INDEX ".toList ++ name ++ " RENAME TO ".toList ++ (← objectNameText)

end Parser

end Sql

end Pushdown
