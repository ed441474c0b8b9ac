/-
**Tables from documents in SQL.**

A structured text, in JSON or XML, is taken apart into rows and columns by paths.

Main definitions:

* `Sql.Parser.documentTable?` — a table from a document.
-/

import Pushdown.Sql.Parser.Call

set_option autoImplicit false

namespace Pushdown

namespace Sql

namespace Parser

/-! ### JSON -/

/-- What stands in for a value that is missing or wrong, if it is said. -/
def pathFallback? (g : Grammar) : Parser (Option Text) := do
  if ← keyword? "NULL" then some <$> behindOn "NULL".toList
  else if ← keyword? "ERROR" then some <$> behindOn "ERROR".toList
  else if ← keyword? "DEFAULT" then
    let value ← literalText g
    some <$> behindOn ("DEFAULT ".toList ++ value)
  else return none
where
  /-- The text in front of the word `ON`, which is taken. -/
  behindOn (s : Text) : Parser Text := do
    keyword "ON"
    return s

/-- What stands in for a missing value and for a wrong one, at most as many times as there is fuel;
the last of each kind counts. -/
def pathFallbacks (g : Grammar) : Nat → Text → Text → Parser Text
  | 0, empty, wrong => return empty ++ wrong
  | fuel + 1, empty, wrong => do
      match ← pathFallback? g with
      | none => return empty ++ wrong
      | some text =>
          if ← keyword? "EMPTY" then
            pathFallbacks g fuel (' ' :: text ++ " ON EMPTY".toList) wrong
          else
            keyword "ERROR"
            pathFallbacks g fuel empty (' ' :: text ++ " ON ERROR".toList)

/-- A column at a path. -/
def pathColumn (g : Grammar) : Parser Text := do
  let name ← identifierText
  if ← keyword? "FOR" then
    keyword "ORDINALITY"
    return name ++ " FOR ORDINALITY".toList
  else
    let type ← dataTypeText g
    let exist ← phrase? [["EXISTS"]]
    keyword "PATH"
    let path ← literalText g
    let fallbacks ← pathFallbacks g ((← get).length + 1) [] []
    return name ++ ' ' :: type ++ exist ++ clause "PATH" path ++ fallbacks

/-- A column at a path or several columns below one, nested at most as deep as there is fuel. -/
def pathColumnsFrom (g : Grammar) : Nat → Parser Text
  | 0 => fail
  | fuel + 1 => do
      if ← keyword? "NESTED" then
        let _ ← keyword? "PATH"
        let path ← literalText g
        keyword "COLUMNS"
        return "NESTED PATH ".toList ++ path ++
          clause "COLUMNS" (← g.listInParens (pathColumnsFrom g fuel))
      else pathColumn g

/-- A table of the parts of a text in JSON, behind the word and the parenthesis. -/
def jsonTable (g : Grammar) : Parser TableFactor := do
  let value ← g.exprText
  symbol ","
  let path ← literalText g
  keyword "COLUMNS"
  let columns ← g.listInParens (pathColumnsFrom g ((← get).length + 1))
  symbol ")"
  let inner := value ++ comma ++ path ++ " COLUMNS".toList ++ columns
  return .other ("JSON_TABLE".toList ++ inParens inner) (← tableAlias? g) []

/-- A column of an opened text in JSON. -/
def openedColumn (g : Grammar) : Parser Text := do
  let name ← identifierText
  let type ← dataTypeText g
  let path ←
    match ← peek with
    | some (.string .single content) => do
        skip
        pure (' ' :: quoted content)
    | _ => pure []
  let isJson ← keyword? "AS"
  if isJson then keyword "JSON"
  return name ++ ' ' :: type ++ path ++ mark "AS JSON" isJson

/-- An opened text in JSON, behind the word and the parenthesis. -/
def openedTable (g : Grammar) : Parser TableFactor := do
  let value ← g.exprText
  let path ← if ← symbol? "," then (comma ++ ·) <$> literalText g else pure []
  symbol ")"
  let columns ← clause? "WITH" (g.listInParens (openedColumn g))
  return .other ("OPENJSON".toList ++ inParens (value ++ path) ++ columns) (← tableAlias? g) []

/-! ### XML -/

/-- A namespace and its name. -/
def xmlNamespace (g : Grammar) : Parser Text := do
  let uri ← g.exprText
  keyword "AS"
  return uri ++ clause "AS" (← identifierText)

/-- A text that is handed to a path. -/
def passedValue (g : Grammar) : Parser Text := do
  -- The word `BY` alone is passed over.
  let isMarked ← keyword? "BY"
  let byValue ← if isMarked then keyword? "VALUE" else pure false
  let manner := if byValue then "BY VALUE ".toList else []
  let value ← g.exprText
  return manner ++ value ++ (← clause? "AS" identifierText)

/-- A column of a text in XML. -/
def xmlColumn (g : Grammar) : Parser Text := do
  let name ← identifierText
  if ← keyword? "FOR" then
    keyword "ORDINALITY"
    return name ++ " FOR ORDINALITY".toList
  else
    let type ← dataTypeText g
    let path ← clause? "PATH" g.exprText
    let default ← clause? "DEFAULT" g.exprText
    let notNull ← keywords? ["NOT", "NULL"]
    if !notNull then
      let _ ← keyword? "NULL"
    return name ++ ' ' :: type ++ path ++ default ++ mark "NOT NULL" notNull

/-- A table of the parts of a text in XML, behind the word and the parenthesis. -/
def xmlTable (g : Grammar) : Parser TableFactor := do
  let namespaces ←
    if ← keyword? "XMLNAMESPACES" then do
      let names ← g.listInParens (xmlNamespace g)
      symbol ","
      pure ("XMLNAMESPACES".toList ++ names ++ comma)
    else pure []
  let row ← g.exprText
  let passed ←
    if ← keyword? "PASSING" then
      clause "PASSING" <$> listed <$> listOf false (passedValue g)
    else pure []
  keyword "COLUMNS"
  let columns ← g.list (xmlColumn g)
  symbol ")"
  let inner := namespaces ++ row ++ passed ++ clause "COLUMNS" columns
  return .other ("XMLTABLE".toList ++ inParens inner) (← tableAlias? g) []

/-! ### The table of words -/

/-- A table from a document, if one follows. -/
def documentTable? (g : Grammar) : Parser (Option TableFactor) := do
  let token ← peek
  if !isSymbol "(" (← peekAt 1) then return none
  else if isKeyword "JSON_TABLE" token then some <$> opened (jsonTable g)
  else if isKeyword "OPENJSON" token then some <$> opened (openedTable g)
  else if isKeyword "XMLTABLE" token then some <$> opened (xmlTable g)
  else return none
where
  /-- A table behind its word and an opening parenthesis. -/
  opened (p : Parser TableFactor) : Parser TableFactor := do
    skip
    skip
    p

end Parser

end Sql

end Pushdown
