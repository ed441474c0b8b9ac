/-
**Definitions of views.**

A view is a query with a name; its columns may have names and properties of their own.

Main definitions:

* `Sql.Parser.userName` — a user, in some dialects with the host;
* `Sql.Parser.createView`, `Sql.Parser.alterView` — a new view and a changed one.
-/

import Pushdown.Sql.Parser.Definition.Table

set_option autoImplicit false

namespace Pushdown

namespace Sql

namespace Parser

/-! ### Parts -/

/-- A user, in some dialects with the host behind an at sign. -/
def userName (g : Grammar) : Parser Text := do
  let name ← objectName
  match ← peek with
  | some (.atSign _) =>
      if g.speaks [.mysql, .generic] && name.length == 1 then
        skip
        return renderName name ++ '@' :: (← identifierText)
      else return renderName name
  | _ => return renderName name

/-- How a view is run and in whose name, with a blank behind each part. -/
def viewManner? (g : Grammar) : Parser Text := do
  let method ←
    if ← keyword? "ALGORITHM" then
      symbol "="
      let method ← oneOf ["UNDEFINED", "MERGE", "TEMPTABLE"]
      pure ("ALGORITHM = ".toList ++ method ++ [' '])
    else pure []
  let definer ←
    if ← keyword? "DEFINER" then
      symbol "="
      let name ← userName g
      pure ("DEFINER = ".toList ++ name ++ [' '])
    else pure []
  let security ←
    if ← keywords? ["SQL", "SECURITY"] then
      let kind ← oneOf ["DEFINER", "INVOKER"]
      pure ("SQL SECURITY ".toList ++ kind ++ [' '])
    else pure []
  return method ++ definer ++ security

/-- A column of a view with its properties. -/
def viewPart (g : Grammar) : Parser Text := do
  let name ← identifierText
  let properties ← repeated (columnProperty? g)
  return name ++ if properties.isEmpty then [] else ' ' :: listed properties

/-- The columns of a view in parentheses with a blank in front, or nothing. -/
def viewColumns? (g : Grammar) : Parser Text := do
  if ← symbol? "(" then
    if ← symbol? ")" then return []
    else
      let columns ← g.list (viewPart g)
      symbol ")"
      return ' ' :: inParens columns
  else return []

/-! ### Views -/

/-- The name of a new view and what stands around it. -/
def viewName : Parser Text := do
  let guard ← unlessExists?
  let name ← objectNameText
  let late ← textIf guard.isEmpty unlessExists?
  return guard ++ ' ' :: name ++ late

/-- A new view, behind the words that choose what is replaced. -/
def createView (g : Grammar) (lead : Text) (temporary : Bool) : Parser Text := do
  let secure ← phrase? [["SECURE"]]
  let materialized ← phrase? [["MATERIALIZED"]]
  keyword "VIEW"
  let name ← viewName
  let columns ← viewColumns? g
  let bound ← someOptions? g "WITH"
  let clusters ←
    if ← keyword? "CLUSTER" then
      keyword "BY"
      if ← peekSymbol "(" then clause "CLUSTER BY" <$> parenthesizedNames g else pure []
    else pure []
  let isGeneric := g.dialect.name == .generic
  let late ← textIf (isGeneric && (← peekKeyword "OPTIONS")) (options? g "OPTIONS")
  let late := if late = " OPTIONS()".toList then [] else late
  let target ← textIf isGeneric (clause? "TO" objectNameText)
  let comment ←
    if ← keywordIf? isGeneric "COMMENT" then
      symbol "="
      (" COMMENT = ".toList ++ quoted ·) <$> remark
    else pure []
  keyword "AS"
  let query ← g.queryText
  let binding ← textIf isGeneric (phrase? [["WITH", "NO", "SCHEMA", "BINDING"]])
  let front := spaced [lead, secure.drop 1, materialized.drop 1,
    if temporary then "TEMPORARY".toList else [], "VIEW".toList]
  let options := if late.isEmpty then bound else []
  return front ++ name ++ target ++ columns ++ options ++ comment ++ clusters ++ late ++
    clause "AS" query ++ binding

/-- A changed view, behind the word. -/
def alterView (g : Grammar) : Parser Text := do
  let name ← objectNameText
  let columns ← parenthesizedNames? g
  let options ← someOptions? g "WITH"
  keyword "AS"
  return "ALTER VIEW ".toList ++ name ++ options ++ columns ++ clause "AS" (← g.queryText)

end Parser

end Sql

end Pushdown
