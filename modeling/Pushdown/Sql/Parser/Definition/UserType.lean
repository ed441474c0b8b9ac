/-
**Definitions of types, domains and sequences.**

A type may list its values, have fields, or be a range of another type; a domain is a type with
conditions; a sequence gives numbers.

Main definitions:

* `Sql.Parser.createType`, `Sql.Parser.alterType` — a new type and a changed one;
* `Sql.Parser.createDomain`, `Sql.Parser.createSequence` — a new domain, a new sequence.
-/

import Pushdown.Sql.Parser.Definition.Table

set_option autoImplicit false

namespace Pushdown

namespace Sql

namespace Parser

/-! ### Types -/

/-- A field of a type. -/
def typeField (g : Grammar) : Parser Text := do
  let name ← identifierText
  let type ← dataTypeText g
  return name ++ ' ' :: type ++ (← clause? "COLLATE" objectNameText)

/-- A text behind a word and an equals sign. -/
def equalTo (word : Text) (p : Parser Text) : Parser Text := do
  symbol "="
  return word ++ " = ".toList ++ (← p)

/-- A property of a range. -/
def rangeOption (g : Grammar) : Parser Text := do
  if ← keyword? "SUBTYPE" then equalTo "SUBTYPE".toList (dataTypeText g)
  else
    let word ←
      oneOf ["SUBTYPE_OPCLASS", "COLLATION", "CANONICAL", "SUBTYPE_DIFF", "MULTIRANGE_TYPE_NAME"]
    equalTo word objectNameText

/-- One of some words in small letters. -/
def smallWord (words : List String) : Parser Text := return (← oneOf words).map Char.toLower

/-- A truth value. -/
def truth : Parser Text := do
  if ← keyword? "TRUE" then return "true".toList
  else if ← keyword? "FALSE" then return "false".toList
  else return "true".toList

/-- The category of a type: the first character of a string. -/
def category (g : Grammar) : Parser Text := do
  match ← stringContent g with
  | [] => fail
  | c :: _ => return ['\'', c, '\'']

/-- A property of a base type. -/
def baseOption (g : Grammar) : Parser Text := do
  match ← oneOf? ["INPUT", "OUTPUT", "RECEIVE", "SEND", "TYPMOD_IN", "TYPMOD_OUT", "ANALYZE",
      "SUBSCRIPT", "LIKE"] with
  | some word => equalTo word objectNameText
  | none =>
      if ← keyword? "INTERNALLENGTH" then
        equalTo "INTERNALLENGTH".toList do
          if ← keyword? "VARIABLE" then return "VARIABLE".toList else natural
      else if ← keyword? "PASSEDBYVALUE" then return "PASSEDBYVALUE".toList
      else if ← keyword? "ALIGNMENT" then
        equalTo "ALIGNMENT".toList (smallWord ["CHAR", "INT2", "INT4", "DOUBLE"])
      else if ← keyword? "STORAGE" then
        equalTo "STORAGE".toList (smallWord ["PLAIN", "EXTERNAL", "EXTENDED", "MAIN"])
      else if ← keyword? "CATEGORY" then equalTo "CATEGORY".toList (category g)
      else if ← keyword? "PREFERRED" then equalTo "PREFERRED".toList truth
      else if ← keyword? "DEFAULT" then equalTo "DEFAULT".toList g.exprText
      else if ← keyword? "ELEMENT" then equalTo "ELEMENT".toList (dataTypeText g)
      else if ← keyword? "DELIMITER" then equalTo "DELIMITER".toList (quotedText g)
      else
        keyword "COLLATABLE"
        equalTo "COLLATABLE".toList truth

/-- What a new type is, with a blank in front, if it is said. -/
def representation? (g : Grammar) : Parser Text := do
  if ← keyword? "AS" then
    if ← keyword? "ENUM" then return " AS ENUM ".toList ++ (← g.anyInParens identifierText)
    else if ← keyword? "RANGE" then return " AS RANGE ".toList ++ (← g.anyInParens (rangeOption g))
    else
      symbol "("
      let fields ← if ← peekSymbol ")" then pure [] else listed <$> listOf false (typeField g)
      symbol ")"
      return " AS ".toList ++ inParens fields
  else if ← symbol? "(" then
    let options ← g.list (baseOption g)
    symbol ")"
    return ' ' :: inParens options
  else return []

/-- A new type, behind the word. -/
def createType (g : Grammar) : Parser Text := do
  let name ← objectNameText
  return "CREATE TYPE ".toList ++ name ++ (← representation? g)

/-- A changed type, behind the word. -/
def alterType : Parser Text := do
  let name ← objectNameText
  let lead := "ALTER TYPE ".toList ++ name
  if ← keywords? ["RENAME", "TO"] then return lead ++ " RENAME TO ".toList ++ (← identifierText)
  else if ← keywords? ["ADD", "VALUE"] then
    let guard ← unlessExists?
    let value ← identifierText
    let before ← clause? "BEFORE" identifierText
    let after ← textIf before.isEmpty (clause? "AFTER" identifierText)
    return lead ++ " ADD VALUE".toList ++ guard ++ ' ' :: value ++ before ++ after
  else
    keywords ["RENAME", "VALUE"]
    let value ← identifierText
    keyword "TO"
    return lead ++ " RENAME VALUE ".toList ++ value ++ clause "TO" (← identifierText)

/-! ### Domains and sequences -/

/-- A new domain, behind the word. -/
def createDomain (g : Grammar) : Parser Text := do
  let name ← objectNameText
  keyword "AS"
  let type ← dataTypeText g
  let collation ← clause? "COLLATE" identifierText
  let default ← clause? "DEFAULT" g.exprText
  let conditions ← repeated (tableConstraint? g)
  return "CREATE DOMAIN ".toList ++ name ++ clause "AS" type ++ collation ++ default ++
    conditions.flatMap fun text => ' ' :: text

/-- A new sequence, behind the word. -/
def createSequence (g : Grammar) (lead : Text) : Parser Text := do
  let guard ← unlessExists?
  let name ← objectNameText
  let type ← clause? "AS" (dataTypeText g)
  let options ← sequenceOptions g
  let column : Parser Text := do
    if ← keyword? "NONE" then return "NONE".toList else objectNameText
  let owned ← clauseBehind? ["OWNED", "BY"] column
  return lead ++ "SEQUENCE".toList ++ guard ++ ' ' :: name ++ type ++ options ++ owned

end Parser

end Sql

end Pushdown
