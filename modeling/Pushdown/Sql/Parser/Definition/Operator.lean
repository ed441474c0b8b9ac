/-
**Definitions of operators.**

An operator is defined by the function that computes it, the types of its operands and what a
planner may know of it.  A class of operators tells which of them an index of a kind uses for a
type, and a family holds several classes.

Main definitions:

* `Sql.Parser.createOperator` — a new operator, class or family;
* `Sql.Parser.dropOperator` — operators, classes or families to remove.
-/

import Pushdown.Sql.Parser.Definition.Alter

set_option autoImplicit false

namespace Pushdown

namespace Sql

namespace Parser

/-! ### Operators -/

/-- The properties of an operator in the order they are written. -/
def operatorProperties : List String :=
  ["FUNCTION", "PROCEDURE", "LEFTARG", "RIGHTARG", "COMMUTATOR", "NEGATOR", "RESTRICT", "JOIN",
    "HASHES", "MERGES"]

/-- The name of another operator, with or without the word and parentheses. -/
def otherOperator : Parser Text := do
  if ← keyword? "OPERATOR" then parenthesized operatorName else operatorName

/-- A property of an operator: its name and its text. -/
def operatorProperty (g : Grammar) : Parser (Text × Text) := do
  let word ← oneOf operatorProperties
  let valued (p : Parser Text) : Parser (Text × Text) := do
    symbol "="
    return (word, word ++ " = ".toList ++ (← p))
  if isOneOf ["HASHES", "MERGES"] word then return (word, word)
  else if isOneOf ["LEFTARG", "RIGHTARG"] word then valued (dataTypeText g)
  else if isOneOf ["COMMUTATOR", "NEGATOR"] word then valued otherOperator
  else valued objectNameText

/-- Whether a property is the function of an operator. -/
def isOperatorFunction (word : Text) : Bool := isOneOf ["FUNCTION", "PROCEDURE"] word

/-- Whether no property is given twice; the two words for the function are one property. -/
def areOperatorProperties (words : List Text) : Bool :=
  (words.map fun word => if isOperatorFunction word then "FUNCTION".toList else word).Nodup

/-- A new operator, behind the word. -/
def plainOperator (g : Grammar) : Parser Text := do
  let name ← operatorName
  let properties ← parenthesized (listOf false (operatorProperty g))
  let words := properties.map Prod.fst
  if !areOperatorProperties words || !words.any isOperatorFunction then fail
  let ordered := operatorProperties.filterMap fun word => properties.lookup word.toList
  return "CREATE OPERATOR ".toList ++ name ++ ' ' :: inParens (listed ordered)

/-! ### Classes and families -/

/-- What an operator of a class serves, with a blank in front, if it is said. -/
def operatorPurpose? : Parser Text := do
  if ← keyword? "FOR" then
    if ← keyword? "SEARCH" then return " FOR SEARCH".toList
    else
      keywords ["ORDER", "BY"]
      return " FOR ORDER BY ".toList ++ (← objectNameText)
  else return []

/-- The types of both operands in parentheses with a blank in front, if they are there. -/
def operandTypes? (g : Grammar) : Parser Text := do
  if ← symbol? "(" then
    let left ← dataTypeText g
    symbol ","
    let right ← dataTypeText g
    symbol ")"
    return ' ' :: inParens (left ++ comma ++ right)
  else return []

/-- The types of the arguments of a function in parentheses, if there are any. -/
def argumentTypes? (g : Grammar) : Parser Text := do
  if ← symbol? "(" then
    let types ← if ← peekSymbol ")" then pure [] else listed <$> listOf false (dataTypeText g)
    symbol ")"
    return if types.isEmpty then [] else inParens types
  else return []

/-- An operator or function of a class, or the type that an index stores. -/
def classItem (g : Grammar) : Parser Text := do
  if ← keyword? "OPERATOR" then
    let number ← natural
    let name ← operatorName
    let types ← operandTypes? g
    return "OPERATOR ".toList ++ number ++ ' ' :: name ++ types ++ (← operatorPurpose?)
  else if ← keyword? "FUNCTION" then
    let number ← natural
    let types ← textIf (← peekSymbol "(") do
      return ' ' :: inParens (← parenthesized (listed <$> listOf false (dataTypeText g)))
    let name ← objectNameText
    return "FUNCTION ".toList ++ number ++ types ++ ' ' :: name ++ (← argumentTypes? g)
  else
    keyword "STORAGE"
    return "STORAGE ".toList ++ (← dataTypeText g)

/-- A new class of operators, behind the words. -/
def operatorClass (g : Grammar) : Parser Text := do
  let name ← objectNameText
  let standard ← phrase? [["DEFAULT"]]
  keywords ["FOR", "TYPE"]
  let type ← dataTypeText g
  keyword "USING"
  let method ← identifierText
  let family ← clause? "FAMILY" objectNameText
  keyword "AS"
  return "CREATE OPERATOR CLASS ".toList ++ name ++ standard ++ clause "FOR TYPE" type ++
    clause "USING" method ++ family ++ clause "AS" (listed (← listOf false (classItem g)))

/-- A new family of operators, behind the words. -/
def operatorFamily : Parser Text := do
  let name ← objectNameText
  keyword "USING"
  return "CREATE OPERATOR FAMILY ".toList ++ name ++ clause "USING" (← identifierText)

/-- A new operator, or a class or family of them, behind the word. -/
def createOperator (g : Grammar) : Parser Text := do
  if ← keyword? "FAMILY" then operatorFamily
  else if ← keyword? "CLASS" then operatorClass g
  else plainOperator g

/-! ### Removal -/

/-- An operator by its name and the types of its operands. -/
def operatorHead (g : Grammar) : Parser Text := do
  let name ← operatorName
  let types ← parenthesized do
    let left ← if ← keyword? "NONE" then pure "NONE".toList else dataTypeText g
    symbol ","
    return left ++ comma ++ (← dataTypeText g)
  return name ++ ' ' :: inParens types

/-- Operators, classes of them or families to remove, behind the word. -/
def dropOperator (g : Grammar) : Parser Text := do
  let kind ← phrase? [["FAMILY"], ["CLASS"]]
  let guard ← ifExists?
  let names ←
    if kind.isEmpty then g.list (operatorHead g)
    else
      let names ← g.list objectNameText
      keyword "USING"
      pure (names ++ clause "USING" (← identifierText))
  return " OPERATOR".toList ++ kind ++ guard ++ ' ' :: names ++ (← dropBehavior?)

end Parser

end Sql

end Pushdown
