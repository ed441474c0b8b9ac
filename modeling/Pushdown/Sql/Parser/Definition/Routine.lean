/-
**Definitions of routines.**

A function, a macro or a procedure has arguments and a body; a trigger runs one when rows of a table
change.

Main definitions:

* `Sql.Parser.routineHead` — a routine by its name and the types of its arguments;
* `Sql.Parser.createFunction`, `Sql.Parser.createMacro`, `Sql.Parser.createProcedure` — new
  routines;
* `Sql.Parser.createTrigger` — a new trigger.
-/

import Pushdown.Sql.Parser.Block
import Pushdown.Sql.Parser.Definition.Table

set_option autoImplicit false

namespace Pushdown

namespace Sql

namespace Parser

/-! ### Arguments -/

/-- Which way a value goes, with a blank behind, if it is said. -/
def argumentMode? : Parser Text := do
  match ← oneOf? ["IN", "OUT", "INOUT"] with
  | some word => return word ++ [' ']
  | none => return []

/-- The word that was taken last, given the tokens that were there before. -/
def lastWord (before after : List Token) : Option Text :=
  match before[before.length - after.length - 1]? with
  | some (.word text quote) => some (Ident.render ⟨text, quote⟩)
  | _ => none

/-- A type that does not start with `DEFAULT`. -/
def furtherType (g : Grammar) : Parser Text := do
  if ← peekKeyword "DEFAULT" then fail else dataTypeText g

/-- A value behind `DEFAULT` or an equals sign, if there is one. -/
def argumentDefault? (g : Grammar) : Parser Text := do
  let isThere ← keyword? "DEFAULT"
  let isThere ← if isThere then pure true else symbol? "="
  if isThere then return " = ".toList ++ (← g.exprText) else return []

/-- An argument of a function.  Where a type follows, what looks like one is the name. -/
def functionArgument (g : Grammar) : Parser Text := do
  let mode ← argumentMode?
  let before ← get
  let first ← dataTypeText g
  let after ← get
  match ← attempt (furtherType g) with
  | some type =>
      match lastWord before after with
      | some name => return mode ++ name ++ ' ' :: type ++ (← argumentDefault? g)
      | none => fail
  | none => return mode ++ first ++ (← argumentDefault? g)

/-- The arguments of a function behind the opening parenthesis, up to and with the closing one. -/
def functionArguments (g : Grammar) : Parser Text := do
  if ← symbol? ")" then return inParens []
  else
    let items ← g.list (functionArgument g)
    symbol ")"
    return inParens items

/-- A routine by its name and the types of its arguments. -/
def routineHead (g : Grammar) : Parser Text := do
  let name ← objectNameText
  if ← symbol? "(" then return name ++ (← functionArguments g) else return name

/-! ### Functions -/

/-- What a function is said to be, each at most once. -/
structure FunctionTraits where
  language : Text := []
  behavior : Text := []
  nulls : Text := []
  sharing : Text := []
  body : Text := []

/-- The text of what a function is said to be. -/
def FunctionTraits.render (t : FunctionTraits) : Text :=
  t.language ++ t.behavior ++ t.nulls ++ t.sharing ++ t.body

/-- The body of a function as a string. -/
def bodyString (g : Grammar) : Parser Text := do
  match ← peek with
  | some (.string (.dollar _) _) => literalText g
  | _ => quotedText g

/-- The body of a function behind `AS`: a string, or two for code in a library. -/
def functionBody (g : Grammar) : Parser Text := do
  let body ← bodyString g
  if ← symbol? "," then return clause "AS" (body ++ comma ++ (← bodyString g))
  else return clause "AS" body

/-- What a function does with nulls, if it is said. -/
def nullCall? : Parser Text :=
  phrase? [["CALLED", "ON", "NULL", "INPUT"], ["RETURNS", "NULL", "ON", "NULL", "INPUT"],
    ["STRICT"]]

/-- A text where none was before. -/
def once (earlier : Text) (text : Text) : Parser Text :=
  if earlier.isEmpty then return text else fail

/-- What a function is said to be, in any order, as far as there is fuel. -/
def traitsFrom (g : Grammar) : Nat → FunctionTraits → Parser FunctionTraits
  | 0, t => return t
  | fuel + 1, t => do
      if ← keyword? "AS" then traitsFrom g fuel { t with body := ← once t.body (← functionBody g) }
      else if ← keyword? "LANGUAGE" then
        let language := clause "LANGUAGE" (← identifierText)
        traitsFrom g fuel { t with language := ← once t.language language }
      else if ← keyword? "PARALLEL" then
        let sharing := clause "PARALLEL" (← oneOf ["UNSAFE", "RESTRICTED", "SAFE"])
        traitsFrom g fuel { t with sharing := ← once t.sharing sharing }
      else if ← keyword? "RETURN" then
        let body := clause "RETURN" (← g.exprText)
        traitsFrom g fuel { t with body := ← once t.body body }
      else
        let behavior ← phrase? [["IMMUTABLE"], ["STABLE"], ["VOLATILE"]]
        if !behavior.isEmpty then
          traitsFrom g fuel { t with behavior := ← once t.behavior behavior }
        else
          let nulls ← nullCall?
          if nulls.isEmpty then return t
          else traitsFrom g fuel { t with nulls := ← once t.nulls nulls }

/-- A new function, behind the word. -/
def createFunction (g : Grammar) (lead : Text) : Parser Text := do
  let name ← objectNameText
  symbol "("
  let arguments ← functionArguments g
  let type ← clause? "RETURNS" (dataTypeText g)
  let traits ← traitsFrom g ((← get).length + 1) {}
  return lead ++ "FUNCTION ".toList ++ name ++ arguments ++ type ++ traits.render

/-! ### Macros and procedures -/

/-- An argument of a macro. -/
def macroArgument (g : Grammar) : Parser Text := do
  let name ← identifierText
  let hasDefault ← symbol? ":="
  let hasDefault ← if hasDefault then pure true else symbol? "=>"
  if hasDefault then return name ++ " := ".toList ++ (← g.exprText) else return name

/-- A new macro, behind the word.  Without arguments there are no parentheses. -/
def createMacro (g : Grammar) (lead : Text) : Parser Text := do
  let name ← objectNameText
  symbol "("
  let arguments ←
    if ← peekSymbol ")" then pure [] else inParens <$> g.list (macroArgument g)
  symbol ")"
  keyword "AS"
  let body ←
    if ← keyword? "TABLE" then ("TABLE ".toList ++ ·) <$> g.queryText else g.exprText
  return lead ++ "MACRO ".toList ++ name ++ arguments ++ clause "AS" body

/-- An argument of a procedure. -/
def procedureArgument (g : Grammar) : Parser Text := do
  let mode ← argumentMode?
  let name ← identifierText
  let type ← dataTypeText g
  let default ← if ← symbol? "=" then (" = ".toList ++ ·) <$> g.exprText else pure []
  return mode ++ name ++ ' ' :: type ++ default

/-- The arguments of a procedure up to and with the closing parenthesis, at most as many as there is
fuel; a comma may stand behind the last one. -/
def procedureArgumentsFrom (g : Grammar) : Nat → Parser (List Text)
  | 0 => fail
  | fuel + 1 => do
      let first ← if isWord (← peek) then (fun text => [text]) <$> procedureArgument g else pure []
      let goesOn ← symbol? ","
      if ← symbol? ")" then return first
      else if goesOn then return first ++ (← procedureArgumentsFrom g fuel)
      else fail

/-- The arguments of a procedure in parentheses with a blank in front, or nothing. -/
def procedureArguments? (g : Grammar) : Parser Text := do
  if !(← symbol? "(") then return []
  else if ← symbol? ")" then return []
  else
    let items ← procedureArgumentsFrom g ((← get).length + 1)
    return if items.isEmpty then [] else ' ' :: inParens (listed items)

/-- A new procedure, behind the word. -/
def createProcedure (g : Grammar) (lead : Text) : Parser Text := do
  let name ← objectNameText
  let arguments ← procedureArguments? g
  let language ← clause? "LANGUAGE" identifierText
  keyword "AS"
  let (body, _) ← block g ["END"]
  return lead ++ "PROCEDURE ".toList ++ name ++ arguments ++ language ++ clause "AS" body

/-! ### Triggers -/

/-- A change of rows. -/
def triggerEvent (g : Grammar) : Parser Text := do
  let word ← oneOf ["INSERT", "UPDATE", "DELETE", "TRUNCATE"]
  if word = "UPDATE".toList then return word ++ (← clause? "OF" (g.list identifierText))
  else return word

/-- Changes of rows with `OR` between, at most as many as there is fuel. -/
def triggerEventsFrom (g : Grammar) : Nat → Parser Text
  | 0 => fail
  | fuel + 1 => do
      let first ← triggerEvent g
      if ← keyword? "OR" then return first ++ " OR ".toList ++ (← triggerEventsFrom g fuel)
      else return first

/-- A name for the rows before or after a change, if there is one. -/
def transitionTable? : Parser (Option Text) := do
  let side ← phrase? [["OLD", "TABLE"], ["NEW", "TABLE"]]
  if side.isEmpty then return none
  else return some (side ++ (← phrase? [["AS"]]) ++ ' ' :: (← objectNameText))

/-- What a trigger runs: a function, or a block of statements. -/
def triggerBody (g : Grammar) : Parser Text := do
  if ← keyword? "EXECUTE" then
    let kind ← oneOf ["FUNCTION", "PROCEDURE"]
    return clause "EXECUTE" kind ++ ' ' :: (← routineHead g)
  else
    let (text, _) ← block g ["END"]
    return ' ' :: text

/-- A new trigger, behind the word. -/
def createTrigger (g : Grammar) (lead : Text) : Parser Text := do
  if g.speaks [.ansi, .duckdb] then fail
  let name ← objectNameText
  let period ← phrase? [["FOR"], ["BEFORE"], ["AFTER"], ["INSTEAD", "OF"]]
  let events ← triggerEventsFrom g ((← get).length + 1)
  keyword "ON"
  let table ← objectNameText
  let referred ← clause? "FROM" objectNameText
  let checking ← characteristics?
  let transitions ←
    if ← keyword? "REFERENCING" then
      let tables ← repeated transitionTable?
      pure (if tables.isEmpty then [] else " REFERENCING".toList ++ tables.flatten)
    else pure []
  let unit ←
    if ← keyword? "FOR" then
      let each ← phrase? [["EACH"]]
      let unit ← oneOf ["ROW", "STATEMENT"]
      pure (" FOR".toList ++ each ++ ' ' :: unit)
    else pure []
  let condition ← clause? "WHEN" g.exprText
  return lead ++ "TRIGGER ".toList ++ name ++ period ++ ' ' :: events ++ clause "ON" table ++
    referred ++ checking ++ transitions ++ unit ++ condition ++ (← triggerBody g)

end Parser

end Sql

end Pushdown
