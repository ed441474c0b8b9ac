/-
**Blocks of SQL statements.**

A block holds statements with a semicolon behind each.  Blocks are run by condition, case by case or
again and again, and they are the bodies of procedures.

Main definitions:

* `Sql.Parser.block` — a block;
* `Sql.Parser.caseStatement`, `Sql.Parser.ifStatement`, `Sql.Parser.whileStatement` — the choice of
  a block;
* `Sql.Parser.raiseStatement` — a failure.
-/

import Pushdown.Sql.Parser.Query

set_option autoImplicit false

namespace Pushdown

namespace Sql

namespace Parser

/-! ### Blocks -/

/-- Takes a keyword; the text is the keyword as it is written. -/
def writtenKeyword (word : String) : Parser Text := do
  match ← next with
  | .word text none => if Keyword.capitals text = word.toList then return text else fail
  | _ => fail

/-- Statements with a semicolon behind each, up to one of some words or the end, at most as many as
there is fuel. -/
def statementsFrom (g : Grammar) (ends : List String) : Nat → Parser (List Text)
  | 0 => fail
  | fuel + 1 => do
      let token ← peek
      if token.isNone || isAnyKeyword ends token then return []
      else
        let text := (← g.statement).render
        if !(← semicolon?) then fail
        return text :: (← statementsFrom g ends fuel)

/-- Statements with a semicolon behind each, as text. -/
def renderStatements (statements : List Text) : Text :=
  if statements.isEmpty then [] else Text.joinWith "; ".toList statements ++ [';']

/-- A block up to one of some words, and whether it is empty. -/
def block (g : Grammar) (ends : List String) : Parser (Text × Bool) := do
  let statements := do statementsFrom g ends ((← get).length + 1)
  if ← peekKeyword "BEGIN" then
    let first ← writtenKeyword "BEGIN"
    let found ← statements
    let last ← writtenKeyword "END"
    return (first ++ ' ' :: renderStatements found ++ ' ' :: last, found.isEmpty)
  else
    let found ← statements
    return (renderStatements found, found.isEmpty)

/-- A block behind a word and what stands between them; an empty one is left out. -/
def branch (g : Grammar) (word : Text) (condition : Parser Text) (ends : List String) :
    Parser Text := do
  let front ← condition
  let (text, isEmpty) ← block g ends
  return word ++ front ++ if isEmpty then [] else ' ' :: text

/-- A condition and `THEN`. -/
def conditionThen (g : Grammar) : Parser Text := do
  let condition ← g.exprText
  keyword "THEN"
  return ' ' :: condition ++ " THEN".toList

/-- Branches that start with a keyword, with a blank in front of each, at most as many as there is
fuel. -/
def branchesFrom (g : Grammar) (word : String) (ends : List String) : Nat → Parser Text
  | 0 => return []
  | fuel + 1 => do
      if ← peekKeyword word then
        let first ← writtenKeyword word
        let text ← branch g first (conditionThen g) ends
        return ' ' :: text ++ (← branchesFrom g word ends fuel)
      else return []

/-- Branches that start with a keyword, with a blank in front of each. -/
def branches (g : Grammar) (word : String) (ends : List String) : Parser Text := do
  branchesFrom g word ends ((← get).length + 1)

/-- The last branch with a blank in front, if there is one. -/
def elseBranch? (g : Grammar) : Parser Text := do
  if ← peekKeyword "ELSE" then
    let word ← writtenKeyword "ELSE"
    return ' ' :: (← branch g word (return []) ["END"])
  else return []

/-! ### Choices -/

/-- A choice by the value of an expression or by conditions, behind the word. -/
def caseStatement (g : Grammar) : Parser Text := do
  let subject ← if ← peekKeyword "WHEN" then pure [] else (' ' :: ·) <$> g.exprText
  let cases ← branches g "WHEN" ["WHEN", "ELSE", "END"]
  if cases.isEmpty then fail
  let other ← elseBranch? g
  keyword "END"
  return "CASE".toList ++ subject ++ cases ++ other ++ " END".toList ++ (← phrase? [["CASE"]])

/-- A choice by conditions, behind the word as it is written. -/
def ifStatement (g : Grammar) (word : Text) : Parser Text := do
  let first ← branch g word (conditionThen g) ["ELSE", "ELSEIF", "END"]
  let others ← branches g "ELSEIF" ["ELSEIF", "ELSE", "END"]
  let last ← elseBranch? g
  keyword "END"
  return first ++ others ++ last ++ " END ".toList ++ (← writtenKeyword "IF")

/-- A block that is run again and again, behind the word as it is written. -/
def whileStatement (g : Grammar) (word : Text) : Parser Text :=
  branch g word ((' ' :: ·) <$> g.exprText) ["END"]

/-- A failure, behind the word. -/
def raiseStatement (g : Grammar) : Parser Text := do
  if ← keywords? ["USING", "MESSAGE"] then
    symbol "="
    return "RAISE USING MESSAGE = ".toList ++ (← g.exprText)
  else return "RAISE".toList ++ markOf (← attempt g.exprText)

end Parser

end Sql

end Pushdown
