/-
**Definitions of schemas and of what belongs to a server.**

A database holds schemas; extensions, secrets, connectors and other servers belong to the server.

Main definitions:

* `Sql.Parser.createSchema`, `Sql.Parser.alterSchema` — a new schema and a changed one;
* `Sql.Parser.createDatabase`, `Sql.Parser.createExtension`, `Sql.Parser.createServer`,
  `Sql.Parser.createConnector`, `Sql.Parser.alterConnector`, `Sql.Parser.createSecret` — what
  belongs to a server.
-/

import Pushdown.Sql.Parser.Definition.Role

set_option autoImplicit false

namespace Pushdown

namespace Sql

namespace Parser

/-! ### Schemas and databases -/

/-- The name of a schema, the name of the role that owns it, or both. -/
def schemaName : Parser Text := do
  let ownerName : Parser Text := return "AUTHORIZATION ".toList ++ (← identifierText)
  if ← keyword? "AUTHORIZATION" then ownerName
  else
    let name ← objectNameText
    if ← keyword? "AUTHORIZATION" then return name ++ ' ' :: (← ownerName) else return name

/-- A new schema, behind the word. -/
def createSchema (g : Grammar) : Parser Text := do
  let guard ← unlessExists?
  let name ← schemaName
  let collation ← clauseBehind? ["DEFAULT", "COLLATE"] g.exprText
  let bound ← clause? "WITH" (g.anyInParens (tableOption g))
  let options ← options? g "OPTIONS"
  return "CREATE SCHEMA".toList ++ guard ++ ' ' :: name ++ collation ++ bound ++ options ++
    (← clause? "CLONE" objectNameText)

/-- A changed schema, behind the word. -/
def alterSchema (g : Grammar) : Parser Text := do
  let guard ← ifExists?
  let name ← objectNameText
  let lead := "ALTER SCHEMA".toList ++ guard ++ ' ' :: name
  if ← keywords? ["SET", "OPTIONS"] then
    return lead ++ " SET OPTIONS ".toList ++ (← g.anyInParens (tableOption g))
  else if ← keywords? ["SET", "DEFAULT", "COLLATE"] then
    return lead ++ " SET DEFAULT COLLATE ".toList ++ (← g.exprText)
  else if ← keywords? ["ADD", "REPLICA"] then
    let replica ← identifierText
    let options ← clause? "OPTIONS" (g.anyInParens (tableOption g))
    return lead ++ " ADD REPLICA ".toList ++ replica ++ options
  else if ← keywords? ["DROP", "REPLICA"] then
    return lead ++ " DROP REPLICA ".toList ++ (← identifierText)
  else if ← keywords? ["RENAME", "TO"] then
    return lead ++ " RENAME TO ".toList ++ (← objectNameText)
  else
    keywords ["OWNER", "TO"]
    return lead ++ " OWNER TO ".toList ++ (← owner)

/-- The places of a database, each kind as it was given last, at most as many as there is fuel. -/
def databasePlaces (g : Grammar) : Nat → Text → Text → Parser Text
  | 0, place, managed => return place ++ managed
  | fuel + 1, place, managed => do
      if ← keyword? "LOCATION" then
        databasePlaces g fuel (clause "LOCATION" (← rawQuotedText g)) managed
      else if ← keyword? "MANAGEDLOCATION" then
        databasePlaces g fuel place (clause "MANAGEDLOCATION" (← rawQuotedText g))
      else return place ++ managed

/-- A new database, behind the word. -/
def createDatabase (g : Grammar) : Parser Text := do
  let guard ← unlessExists?
  let name ← objectNameText
  let places ← databasePlaces g ((← get).length + 1) [] []
  return "CREATE DATABASE".toList ++ guard ++ ' ' :: name ++ places ++
    (← clause? "CLONE" objectNameText)

/-! ### Servers -/

/-- A new extension, behind the word. -/
def createExtension : Parser Text := do
  let guard ← unlessExists?
  let name ← identifierText
  let choices ←
    if ← keyword? "WITH" then
      let schema ← clause? "SCHEMA" identifierText
      let version ← clause? "VERSION" identifierText
      let cascade ← phrase? [["CASCADE"]]
      pure (schema ++ version ++ cascade)
    else pure []
  let choices := if choices.isEmpty then [] else " WITH".toList ++ choices
  return "CREATE EXTENSION".toList ++ guard ++ ' ' :: name ++ choices

/-- An option of another server. -/
def serverOption : Parser Text := return (← identifierText) ++ ' ' :: (← identifierText)

/-- Another server, behind the word. -/
def createServer (g : Grammar) : Parser Text := do
  let guard ← unlessExists?
  let name ← objectNameText
  let type ← clause? "TYPE" identifierText
  let version ← clause? "VERSION" identifierText
  keywords ["FOREIGN", "DATA", "WRAPPER"]
  let wrapper ← objectNameText
  let options ← clause? "OPTIONS" (g.listInParens serverOption)
  return "CREATE SERVER".toList ++ guard ++ ' ' :: name ++ type ++ version ++
    clause "FOREIGN DATA WRAPPER" wrapper ++ options

/-- A new connection to another source, behind the word. -/
def createConnector (g : Grammar) : Parser Text := do
  let guard ← unlessExists?
  let name ← identifierText
  let type ← clause? "TYPE" (rawQuotedText g)
  let url ← clause? "URL" (rawQuotedText g)
  let comment ←
    if ← keyword? "COMMENT" then
      let _ ← symbol? "="
      let text ← remark
      pure (" COMMENT = ".toList ++ '\'' :: text ++ ['\''])
    else pure []
  let properties ←
    if ← keywords? ["WITH", "DCPROPERTIES"] then
      (" WITH DCPROPERTIES".toList ++ ·) <$> g.listInParens (tableOption g)
    else pure []
  return "CREATE CONNECTOR".toList ++ guard ++ ' ' :: name ++ type ++ url ++ comment ++ properties

/-- A changed connection to another source, behind the word. -/
def alterConnector (g : Grammar) : Parser Text := do
  let name ← identifierText
  keyword "SET"
  let properties ← options? g "DCPROPERTIES"
  let properties := if properties = " DCPROPERTIES()".toList then [] else properties
  let url ← clause? "URL" (rawQuotedText g)
  let ownerName ←
    if ← keywords? ["OWNER", "USER"] then clause "OWNER USER" <$> identifierText
    else if ← keywords? ["OWNER", "ROLE"] then clause "OWNER ROLE" <$> identifierText
    else pure []
  let set (text : Text) : Text := if text.isEmpty then [] else " SET".toList ++ text
  return "ALTER CONNECTOR ".toList ++ name ++ set properties ++ set url ++ set ownerName

/-- A new secret, behind the word. -/
def createSecret (g : Grammar) (lead : Text) : Parser Text := do
  let guard ← unlessExists?
  let early ← if ← keyword? "IN" then clauseOf "IN" <$> attempt identifierText else pure []
  let isNamed := early.isEmpty && !(← peekSymbol "(")
  let name ← if isNamed then markOf <$> attempt identifierText else pure []
  let late ←
    if ← keywordIf? early.isEmpty "IN" then clauseOf "IN" <$> attempt identifierText else pure []
  let inner ← parenthesized do
    keyword "TYPE"
    let type ← identifierText
    if ← symbol? "," then return type ++ comma ++ (← g.list serverOption) else return type
  return lead ++ "SECRET".toList ++ guard ++ name ++ early ++ late ++ " ( TYPE ".toList ++ inner ++
    " )".toList

end Parser

end Sql

end Pushdown
