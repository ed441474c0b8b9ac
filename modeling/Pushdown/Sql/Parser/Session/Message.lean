/-
**Messages and remarks.**

A session sends messages to others and to its user, raises errors, and writes remarks about tables
into the database.

Main definitions:

* `Sql.Parser.raiseError`, `Sql.Parser.assertion` — errors;
* `Sql.Parser.notify`, `Sql.Parser.unlisten` — messages between sessions;
* `Sql.Parser.comment`, `Sql.Parser.pragma` — remarks and settings of a database.
-/

import Pushdown.Sql.Parser.Session.Transaction

set_option autoImplicit false

namespace Pushdown

namespace Sql

namespace Parser

/-- An error with its number, state and arguments, behind the word. -/
def raiseError (g : Grammar) : Parser Text := do
  let parts ← parenthesized do
    let message ← g.exprText
    symbol ","
    let severity ← g.exprText
    symbol ","
    let state ← g.exprText
    let arguments ← if ← symbol? "," then g.exprTexts else pure []
    return message :: severity :: state :: arguments
  let option := oneOf ["LOG", "NOWAIT", "SETERROR"]
  return "RAISERROR".toList ++ inParens (listed parts) ++ (← clause? "WITH" (g.list option))

/-- A condition that has to hold, behind the word. -/
def assertion (g : Grammar) : Parser Text := do
  let condition ← g.exprText
  return "ASSERT ".toList ++ condition ++ (← clause? "AS" g.exprText)

/-- A channel or all channels that are heard no longer, behind the word. -/
def unlisten : Parser Text := do
  if ← symbol? "*" then return "UNLISTEN *".toList
  else return "UNLISTEN ".toList ++ (← identifierText)

/-- A message on a channel, behind the word. -/
def notify (g : Grammar) : Parser Text := do
  let channel ← identifierText
  let payload ← if ← symbol? "," then (comma ++ ·) <$> rawQuotedText g else pure []
  return "NOTIFY ".toList ++ channel ++ payload

/-- A remark on something, behind the word. -/
def comment (g : Grammar) : Parser Text := do
  let guard ← ifExists?
  keyword "ON"
  let kind ←
    phrase? [["COLUMN"], ["DATABASE"], ["DOMAIN"], ["EXTENSION"], ["FUNCTION"], ["INDEX"],
      ["MATERIALIZED", "VIEW"], ["PROCEDURE"], ["ROLE"], ["SCHEMA"], ["SEQUENCE"], ["TABLE"],
      ["TYPE"], ["USER"], ["VIEW"]]
  if kind.isEmpty then fail
  let name ← objectNameText
  keyword "IS"
  let text ← if ← keyword? "NULL" then pure "NULL".toList else rawQuotedText g
  return "COMMENT".toList ++ guard ++ " ON".toList ++ kind ++ ' ' :: name ++ clause "IS" text

/-- The value of a setting of a database: a string, number or placeholder. -/
def pragmaValue (g : Grammar) : Parser Text := do
  let value ← literal g.dialect
  match value with
  | .string .single _ => return value.render
  | .string .double _ => return value.render
  | .string _ _ => fail
  | .plain text =>
      if ["true", "false", "NULL"].any fun word => word.toList == text then fail else return text

/-- A setting of a database, behind the word. -/
def pragma (g : Grammar) : Parser Text := do
  let name ← objectNameText
  if ← peekSymbol "(" then
    return "PRAGMA ".toList ++ name ++ inParens (← parenthesized (pragmaValue g))
  else if ← symbol? "=" then return "PRAGMA ".toList ++ name ++ " = ".toList ++ (← pragmaValue g)
  else return "PRAGMA ".toList ++ name

/-- The end of a routine with its value, if there is one, behind the word. -/
def returnStatement (g : Grammar) : Parser Text := do
  return "RETURN".toList ++ markOf (← attempt g.exprText)

end Parser

end Sql

end Pushdown
