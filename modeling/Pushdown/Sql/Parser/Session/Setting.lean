/-
**Variables of a session.**

A session has variables, a role, a time zone and a character set; setting them is a statement.

Main definitions:

* `Sql.Parser.setStatement` — a new value of a variable;
* `Sql.Parser.resetStatement` — a variable with its first value again.
-/

import Pushdown.Sql.Parser.Session.Transaction

set_option autoImplicit false

namespace Pushdown

namespace Sql

namespace Parser

/-- Where a variable lives, if it is said. -/
def scope? : Parser Text := return markOf (← oneOf? ["SESSION", "LOCAL", "GLOBAL"])

/-- An equals sign or `TO`, if one of them is there. -/
def assigns? : Parser Bool := do
  if ← symbol? "=" then return true else keyword? "TO"

/-- A value of a variable; a query is one. -/
def settingValue (g : Grammar) : Parser Text := do
  if isAnyKeyword ["SELECT", "WITH"] (← peek) then inParens <$> g.queryText else g.exprText

/-- The values of a variable. -/
def settingValues (g : Grammar) : Parser Text := listed <$> listOf false (settingValue g)

/-- A role that is taken on, behind the word `SET` and the scope. -/
def setRole (scope : Text) : Parser Text := do
  keyword "ROLE"
  let name ← if ← keyword? "NONE" then pure "NONE".toList else identifierText
  return "SET".toList ++ scope ++ " ROLE ".toList ++ name

/-- A time zone, behind its words. -/
def setTimeZone (g : Grammar) (lead scope : Text) : Parser Text := do
  if ← assigns? then
    return "SET".toList ++ scope ++ ' ' :: lead ++ "TIMEZONE = ".toList ++ (← settingValues g)
  else
    let isLocal := scope = " LOCAL".toList
    return "SET".toList ++ mark "LOCAL" isLocal ++ " TIME ZONE ".toList ++ (← g.exprText)

/-- A character set, behind the word. -/
def setNames (g : Grammar) : Parser Text := do
  if ← keyword? "DEFAULT" then return "SET NAMES DEFAULT".toList
  else
    let name ← identifierText
    return "SET NAMES ".toList ++ name ++ (← clause? "COLLATE" (stringContent g))

/-- The properties of a transaction or of all of a session, behind the word. -/
def setTransaction (g : Grammar) : Parser Text := do
  if ← keyword? "SNAPSHOT" then return "SET TRANSACTION SNAPSHOT ".toList ++ (← literalText g)
  else return "SET TRANSACTION".toList ++ (← transactionModes)

/-- The user whose rights are taken on, behind the word. -/
def setAuthorization (scope : Text) : Parser Text := do
  if scope.isEmpty then fail
  let name ← if ← keyword? "DEFAULT" then pure "DEFAULT".toList else identifierText
  return "SET SESSION AUTHORIZATION ".toList ++ name

/-- A variable with its scope and its new value. -/
def scopedAssignment (g : Grammar) : Parser (Text × Text) := do
  let scope ← scope?
  if g.dialect.name = .generic ∧ (← peekSymbol "(") then fail
  let name ← objectNameText
  if ← assigns? then return (scope, name ++ " = ".toList ++ (← g.exprText)) else fail

/-- Several variables with their new values, in the dialects that have them. -/
def assignments? (g : Grammar) (lead : Text) : Parser (Option Text) := do
  if !g.speaks [.mysql, .generic] then return none
  else
    match ← attempt (commaSeparated g.dialect (scopedAssignment g)) with
    | none => return none
    | some [(scope, text)] => return some ("SET".toList ++ scope ++ ' ' :: lead ++ text)
    | some several =>
        let texts := several.map fun (scope, text) => scope.drop 1 ++
          (if scope.isEmpty then [] else [' ']) ++ text
        return some ("SET ".toList ++ listed texts)

/-- Several variables in parentheses and their values in parentheses. -/
def setSeveral (g : Grammar) : Parser Text := do
  let names ← parenthesizedNames g
  if ← assigns? then
    let values ← parenthesized (settingValues g)
    return "SET ".toList ++ names ++ " = ".toList ++ inParens values
  else fail

/-- New values of variables, behind the scope.  `before` is what stands there with the scope. -/
def setVariables (g : Grammar) (lead scope : Text) (before : List Token) : Parser Text := do
  let behind ← get
  -- A list of variables is read with the scope of its first one.
  set before
  match ← assignments? g lead with
  | some text => return text
  | none =>
      if !g.speaks [.mysql, .generic] then set behind
      if g.dialect.name = .generic ∧ (← peekSymbol "(") then setSeveral g
      else
        let name ← objectNameText
        if ← assigns? then
          return "SET".toList ++ scope ++ ' ' :: lead ++ name ++ " = ".toList ++ (← settingValues g)
        else fail

/-- A new value of a variable or something else of a session, behind the word. -/
def setStatement (g : Grammar) : Parser Text := do
  let isVariable ← keyword? "HIVEVAR"
  if isVariable then
    match ← next with
    | .colon _ => pure ()
    | _ => fail
  let lead := if isVariable then "HIVEVAR:".toList else []
  let before ← get
  let scope ← textIf (!isVariable) scope?
  match ← attempt (setRole scope) with
  | some text => return text
  | none =>
      if !(← phrase? [["TIME", "ZONE"], ["TIMEZONE"]]).isEmpty then setTimeZone g lead scope
      else if ← keywordIf? (g.speaks [.generic, .postgresql, .mysql]) "NAMES" then setNames g
      else if ← keyword? "CHARACTERISTICS" then
        keywords ["AS", "TRANSACTION"]
        return "SET SESSION CHARACTERISTICS AS TRANSACTION".toList ++ (← transactionModes)
      else if ← keyword? "TRANSACTION" then setTransaction g
      else if ← keyword? "AUTHORIZATION" then setAuthorization scope
      else setVariables g lead scope before

/-- A variable with its first value again, behind the word. -/
def resetStatement : Parser Text := do
  if ← keyword? "ALL" then return "RESET ALL".toList
  else return "RESET ".toList ++ (← objectNameText)

end Parser

end Sql

end Pushdown
