/-
**Removal of definitions.**

Tables, views and everything else that has a name are dropped; tables may be emptied as well.

Main definitions:

* `Sql.Parser.drop` — things to remove;
* `Sql.Parser.truncate` — tables to empty.
-/

import Pushdown.Sql.Parser.Definition.Operator
import Pushdown.Sql.Parser.Definition.Routine

set_option autoImplicit false

namespace Pushdown

namespace Sql

namespace Parser

/-- `TEMPORARY` or `PERSISTENT` with a blank in front, if the dialect has it and it is there. -/
def lifetime? (g : Grammar) : Parser (Text × Text) := do
  let temporary ←
    textIf (g.speaks [.mysql, .generic, .duckdb]) (phrase? [["TEMPORARY"]])
  return (temporary, ← textIf (g.dialect.name = .duckdb) (phrase? [["PERSISTENT"]]))

/-- Things of one kind to remove. -/
def dropNamed (g : Grammar) (kind : Text) : Parser Text := do
  let guard ← ifExists?
  let names ← g.list objectNameText
  let cascade ← phrase? [["CASCADE"]]
  let restrict ← phrase? [["RESTRICT"]]
  let purge ← phrase? [["PURGE"]]
  if !cascade.isEmpty && !restrict.isEmpty then fail
  let manner := cascade ++ restrict ++ purge
  if kind = " ROLE".toList ∧ !manner.isEmpty then fail
  return kind ++ guard ++ ' ' :: names ++ manner ++ (← clause? "ON" objectNameText)

/-- A thing of one kind to remove, with what stands behind its name. -/
def dropOne (kind : String) (name behind : Parser Text) : Parser Text := do
  let guard ← ifExists?
  let text ← name
  return ' ' :: kind.toList ++ guard ++ ' ' :: text ++ (← behind)

/-- Things to remove, behind the word. -/
def drop (g : Grammar) : Parser Text := do
  let (temporary, persistent) ← lifetime? g
  let kind ← phrase? [["TABLE"], ["VIEW"], ["MATERIALIZED", "VIEW"], ["INDEX"], ["ROLE"],
    ["SCHEMA"], ["DATABASE"], ["SEQUENCE"], ["STAGE"], ["TYPE"], ["USER"], ["STREAM"]]
  if !kind.isEmpty then return "DROP".toList ++ temporary ++ (← dropNamed g kind)
  else if ← keyword? "SECRET" then
    if !temporary.isEmpty && !persistent.isEmpty then fail
    let place : Parser Text := clause? "FROM" identifierText
    return "DROP".toList ++ temporary ++ persistent ++ (← dropOne "SECRET" identifierText place)
  else
    let text ←
      if ← keyword? "FUNCTION" then dropOne "FUNCTION" (g.list (routineHead g)) dropBehavior?
      else if ← keyword? "PROCEDURE" then dropOne "PROCEDURE" (g.list (routineHead g)) dropBehavior?
      else if ← keyword? "POLICY" then dropOne "POLICY" policyName dropBehavior?
      else if ← keyword? "CONNECTOR" then dropOne "CONNECTOR" identifierText (return [])
      else if ← keyword? "DOMAIN" then dropOne "DOMAIN" objectNameText dropBehavior?
      else if ← keyword? "EXTENSION" then dropOne "EXTENSION" (g.list identifierText) dropBehavior?
      else if ← keyword? "OPERATOR" then dropOperator g
      else
        keyword "TRIGGER"
        if g.speaks [.ansi, .duckdb] then fail
        dropOne "TRIGGER" objectNameText do
          return (← clause? "ON" objectNameText) ++ (← dropBehavior?)
    return "DROP".toList ++ text

/-- Tables to empty, behind the word. -/
def truncate (g : Grammar) : Parser Text := do
  let word ← phrase? [["TABLE"]]
  let guard ← ifExists?
  let target : Parser Text := do
    let only ← phrase? [["ONLY"]]
    let name ← objectNameText
    let star ← symbol? "*"
    return only.drop 1 ++ (if only.isEmpty then [] else [' ']) ++ name ++ mark "*" star
  let names ← g.list target
  let partitions ← clause? "PARTITION" (g.listInParens g.exprText)
  let isFull := g.speaks [.postgresql, .generic]
  let identity ← textIf isFull (phrase? [["RESTART", "IDENTITY"], ["CONTINUE", "IDENTITY"]])
  let manner ← textIf isFull dropBehavior?
  return "TRUNCATE".toList ++ word ++ guard ++ ' ' :: names ++ identity ++ manner ++ partitions ++
    (← onCluster?)

end Parser

end Sql

end Pushdown
