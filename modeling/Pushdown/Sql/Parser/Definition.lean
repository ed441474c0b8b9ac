/-
**Definitions in SQL.**

Tables, views, indexes, routines, roles and types are created and changed.  A definition is kept as
its text.

Main definitions:

* `Sql.Parser.create` — something new;
* `Sql.Parser.alter` — something changed.
-/

import Pushdown.Sql.Parser.Definition.Drop
import Pushdown.Sql.Parser.Definition.Schema
import Pushdown.Sql.Parser.Definition.UserType
import Pushdown.Sql.Parser.Definition.View

set_option autoImplicit false

namespace Pushdown

namespace Sql

namespace Parser

/-- The words in front of what is created. -/
structure Creation where
  replaced : Text
  altered : Text
  scope : Text
  transient : Text
  temporary : Text
  persistent : Text

/-- The words in front of what is created, each with a blank behind. -/
def creation (g : Grammar) : Parser Creation := do
  let leading (words : List String) (text : String) : Parser Text := do
    if ← keywords? words then return text.toList else return []
  let replaced ← leading ["OR", "REPLACE"] "OR REPLACE "
  let altered ← leading ["OR", "ALTER"] "OR ALTER "
  let isLocal ← leading ["LOCAL"] "LOCAL "
  let isGlobal ← leading ["GLOBAL"] "GLOBAL "
  let transient ← leading ["TRANSIENT"] "TRANSIENT "
  let temporary := if (← oneOf? ["TEMP", "TEMPORARY"]).isSome then "TEMPORARY ".toList else []
  let persistent ← textIf (g.dialect.name = .duckdb) (leading ["PERSISTENT"] "PERSISTENT ")
  let scope := if isGlobal.isEmpty then isLocal else isGlobal
  return ⟨replaced, altered, scope, transient, temporary, persistent⟩

/-- Whether the next tokens start a view. -/
def startsView : Parser Bool := do
  let first ← peek
  let second ← peekAt 1
  let behind := if isKeyword "SECURE" first then second else first
  return isKeyword "VIEW" behind || isKeyword "MATERIALIZED" behind

/-- Something new that may take the place of something old, if it is one. -/
def createOrReplace? (g : Grammar) (c : Creation) : Parser (Option Text) := do
  let lead := "CREATE ".toList ++ c.replaced
  let routineLead := "CREATE ".toList ++ c.altered ++ c.replaced
  let manner ← viewManner? g
  if ← keyword? "TABLE" then
    some <$> createTable g (lead ++ c.scope ++ c.temporary ++ c.transient)
  else if ← startsView then
    let front := "CREATE ".toList ++ c.altered ++ c.replaced ++ manner
    some <$> createView g (front.dropLast) (!c.temporary.isEmpty)
  else if ← keyword? "POLICY" then some <$> createPolicy g
  else if ← keyword? "EXTERNAL" then some <$> createExternalTable g lead
  else if ← keyword? "FUNCTION" then
    if g.speaks [.postgresql, .generic] then some <$> createFunction g (lead ++ c.temporary)
    else if g.dialect.name = .duckdb then some <$> createMacro g (lead ++ c.temporary)
    else fail
  else if ← keyword? "DOMAIN" then some <$> createDomain g
  else if ← keyword? "TRIGGER" then
    some <$> createTrigger g ("CREATE ".toList ++ c.temporary ++ c.altered ++ c.replaced)
  else if ← keywords? ["CONSTRAINT", "TRIGGER"] then
    some <$> createTrigger g
      ("CREATE ".toList ++ c.temporary ++ c.altered ++ c.replaced ++ "CONSTRAINT ".toList)
  else if ← keyword? "MACRO" then
    if g.speaks [.duckdb, .generic] then some <$> createMacro g (lead ++ c.temporary) else fail
  else if ← keyword? "SECRET" then
    if !c.temporary.isEmpty && !c.persistent.isEmpty then fail
    some <$> createSecret g (lead ++ c.temporary ++ c.persistent)
  else if ← keyword? "USER" then some <$> createUser g lead
  else if !c.replaced.isEmpty then fail
  else if ← keyword? "PROCEDURE" then some <$> createProcedure g routineLead
  else return none

/-- Something new, behind the word. -/
def create (g : Grammar) : Parser Text := do
  let c ← creation g
  match ← createOrReplace? g c with
  | some text => return text
  | none =>
      if ← keyword? "EXTENSION" then createExtension
      else if ← keyword? "INDEX" then createIndex g "CREATE ".toList
      else if ← keywords? ["UNIQUE", "INDEX"] then createIndex g "CREATE UNIQUE ".toList
      else if ← keyword? "VIRTUAL" then createVirtualTable g
      else if ← keyword? "SCHEMA" then createSchema g
      else if ← keyword? "DATABASE" then createDatabase g
      else if ← keyword? "ROLE" then createRole g
      else if ← keyword? "SEQUENCE" then createSequence g ("CREATE ".toList ++ c.temporary)
      else if ← keyword? "TYPE" then createType g
      else if ← keyword? "CONNECTOR" then createConnector g
      else if ← keyword? "OPERATOR" then createOperator g
      else
        keyword "SERVER"
        createServer g

/-- Something changed, behind the word. -/
def alter (g : Grammar) : Parser Text := do
  if ← keyword? "VIEW" then alterView g
  else if ← keyword? "TYPE" then alterType
  else if ← keyword? "TABLE" then alterTable g "ALTER TABLE".toList
  else if ← keywords? ["ICEBERG", "TABLE"] then alterTable g "ALTER ICEBERG TABLE".toList
  else if ← keyword? "INDEX" then alterIndex
  else if ← keyword? "ROLE" then alterRole g
  else if ← keyword? "POLICY" then alterPolicy g
  else if ← keyword? "CONNECTOR" then alterConnector g
  else if ← keyword? "SCHEMA" then alterSchema g
  else
    keyword "USER"
    alterUser g

end Parser

end Sql

end Pushdown
