/-
**Things to show.**

Tables, columns, databases, variables and the like are shown, some of them only where they are in a
schema or fit a pattern.

Main definitions:

* `Sql.Parser.showFilter?`, `Sql.Parser.showOptions` — which of them are shown;
* `Sql.Parser.showStatement` — things to show.
-/

import Pushdown.Sql.Parser.Session.Setting

set_option autoImplicit false

namespace Pushdown

namespace Sql

namespace Parser

/-- A pattern or condition for what is shown, if there is one. -/
def showFilter? (g : Grammar) : Parser Text := do
  if ← keyword? "LIKE" then return clause "LIKE" (← quotedText g)
  else if ← keyword? "ILIKE" then
    -- This pattern is written without quotes.
    return clause "ILIKE" (doubleQuotes '\'' (← stringContent g))
  else if ← keyword? "WHERE" then return clause "WHERE" (← g.exprText)
  else return markOf (← attempt (quotedText g))

/-- The thing of some kind that is looked into. -/
def showParent (kind : Text) : Parser Text := do
  let isBare := ["DATABASE", "SCHEMA"].any fun word => word.toList == kind
  let ends ← do
    let tokens ← get
    pure (startsWith ["STARTS", "WITH"] tokens || startsWith ["LIMIT"] tokens)
  if isBare && ends then return ' ' :: kind
  else return ' ' :: kind ++ markOf (← attempt objectNameText)

/-- Where to look, if it is said. -/
def showPlace? : Parser Text := do
  match ← oneOf? ["FROM", "IN"] with
  | none => return []
  | some word =>
      match ← oneOf? ["ACCOUNT", "DATABASE", "SCHEMA", "TABLE", "VIEW"] with
      | some kind => return ' ' :: word ++ (← showParent kind)
      | none =>
          let name ← objectNameText
          match ← oneOf? ["FROM", "IN"] with
          | some _ => return ' ' :: word ++ ' ' :: (← identifierText) ++ '.' :: name
          | none => return ' ' :: word ++ ' ' :: name

/-- Where to look, what fits, and how many.  What fits is written behind the rest. -/
def showOptions (g : Grammar) : Parser Text := do
  let place ← showPlace?
  let filter ← showFilter? g
  let start ← clauseBehind? ["STARTS", "WITH"] (literalText g)
  let limit ← if ← keyword? "LIMIT" then clauseOf "LIMIT" <$> limit g else pure []
  let first ← clause? "FROM" (literalText g)
  return place ++ start ++ limit ++ first ++ filter

/-- How something was created, behind the word. -/
def showCreate : Parser Text := do
  let kind ← oneOf ["TABLE", "TRIGGER", "FUNCTION", "PROCEDURE", "EVENT", "VIEW"]
  return "SHOW CREATE ".toList ++ kind ++ ' ' :: (← objectNameText)

/-- Databases or schemas, behind the word. -/
def showSpaces (g : Grammar) (lead : Text) : Parser Text := do
  let history ← phrase? [["HISTORY"]]
  return lead ++ history ++ (← showOptions g)

/-- Things that are shown by a word of their own, and else variables.  A word that the dialect does
not know is passed over. -/
def showOther (g : Grammar) (terse session globally : Text) : Parser Text := do
  let hasVariables := g.speaks [.mysql, .generic]
  let front := "SHOW".toList ++ globally ++ session
  if ← keyword? "CREATE" then showCreate
  else if ← keyword? "COLLATION" then return "SHOW COLLATION".toList ++ (← showFilter? g)
  else if ← keywordWhere "VARIABLES" hasVariables then
    return front ++ " VARIABLES".toList ++ (← showFilter? g)
  else if ← keywordWhere "STATUS" hasVariables then
    return front ++ " STATUS".toList ++ (← showFilter? g)
  else if ← keyword? "DATABASES" then showSpaces g ("SHOW".toList ++ terse ++ " DATABASES".toList)
  else if ← keyword? "SCHEMAS" then showSpaces g ("SHOW".toList ++ terse ++ " SCHEMAS".toList)
  else
    let charset ← phrase? [["CHARACTER", "SET"], ["CHARSET"]]
    if !charset.isEmpty then return "SHOW".toList ++ charset ++ (← showFilter? g)
    else
      let names ← wordsToEnd
      return "SHOW".toList ++ names.flatMap fun name => ' ' :: name

/-- Things to show, behind the word. -/
def showStatement (g : Grammar) : Parser Text := do
  let terse ← phrase? [["TERSE"]]
  let extended ← phrase? [["EXTENDED"]]
  let full ← phrase? [["FULL"]]
  let session ← phrase? [["SESSION"]]
  let globally ← phrase? [["GLOBAL"]]
  let external ← phrase? [["EXTERNAL"]]
  if (← oneOf? ["COLUMNS", "FIELDS"]).isSome then
    return "SHOW".toList ++ extended ++ full ++ " COLUMNS".toList ++ (← showOptions g)
  else if ← keyword? "TABLES" then
    let history ← textIf external.isEmpty (phrase? [["HISTORY"]])
    return "SHOW".toList ++ terse ++ extended ++ full ++ external ++ " TABLES".toList ++ history ++
      (← showOptions g)
  else
    let views ← phrase? [["MATERIALIZED", "VIEWS"], ["VIEWS"]]
    if !views.isEmpty then return "SHOW".toList ++ terse ++ views ++ (← showOptions g)
    else if ← keyword? "FUNCTIONS" then return "SHOW FUNCTIONS".toList ++ (← showFilter? g)
    else if !extended.isEmpty || !full.isEmpty then fail
    else showOther g terse session globally

end Parser

end Sql

end Pushdown
