/-
**Plans and transactions.**

A statement may be explained instead of run.  A transaction groups statements; it is started, ended
and undone as a whole or up to a savepoint.

Main definitions:

* `Sql.Parser.explain` — the plan of a statement;
* `Sql.Parser.begin`, `Sql.Parser.commit`, `Sql.Parser.rollback` — transactions.
-/

import Pushdown.Sql.Parser.Definition

set_option autoImplicit false

namespace Pushdown

namespace Sql

namespace Parser

/-! ### Plans -/

/-- An option in parentheses: a name and possibly a value. -/
def explainOption (g : Grammar) : Parser Text := do
  let name ← identifierText
  if (← peekSymbol ",") || (← peekSymbol ")") then return name
  else return name ++ ' ' :: (← g.exprText)

/-- The options in front of a statement whose plan is wanted. -/
def explainOptions (g : Grammar) (word : Text) : Parser Text := do
  let isPlain := word = "EXPLAIN".toList ∧ g.speaks [.postgresql, .duckdb, .generic]
  if isPlain ∧ (← peekSymbol "(") then return ' ' :: (← g.listInParens (explainOption g))
  else if ← keywords? ["QUERY", "PLAN"] then return " QUERY PLAN".toList
  else if ← keyword? "ESTIMATE" then return " ESTIMATE".toList
  else
    let run ← phrase? [["ANALYZE"]]
    let long ← phrase? [["VERBOSE"]]
    let shape ←
      if ← keyword? "FORMAT" then
        let sign := if ← symbol? "=" then "=" else " "
        let kind ← oneOf ["TEXT", "GRAPHVIZ", "JSON"]
        pure (" FORMAT".toList ++ sign.toList ++ kind)
      else pure []
    return run ++ long ++ shape

/-- A statement whose plan is wanted, or a table to describe, behind the word.  A plan has no plan
of its own. -/
def explain (g : Grammar) (word : Text) : Parser Text := do
  let options ← explainOptions g word
  let isPlan := isAnyKeyword ["EXPLAIN", "DESCRIBE", "DESC"] (← peek)
  -- What cannot be read as a statement is the name of a table.
  match ← attempt g.statement with
  | some statement => if isPlan then fail else return word ++ options ++ ' ' :: statement.render
  | none =>
      let shape := markOf (← oneOf? ["EXTENDED", "FORMATTED"])
      return word ++ shape ++ ' ' :: (← objectNameText)

/-! ### Transactions -/

/-- How far a transaction is kept apart from others. -/
def isolationLevel : Parser Text := do
  match ← phrase? [["READ", "UNCOMMITTED"], ["READ", "COMMITTED"], ["REPEATABLE", "READ"],
      ["SERIALIZABLE"], ["SNAPSHOT"]] with
  | ' ' :: level => return level
  | _ => fail

/-- A property of a transaction, if there is one. -/
def transactionMode? : Parser (Option Text) := do
  if ← keywords? ["ISOLATION", "LEVEL"] then
    return some ("ISOLATION LEVEL ".toList ++ (← isolationLevel))
  else if ← keywords? ["READ", "ONLY"] then return some "READ ONLY".toList
  else if ← keywords? ["READ", "WRITE"] then return some "READ WRITE".toList
  else return none

/-- The properties of a transaction, at most as many as there is fuel; behind a comma one has to
follow. -/
def transactionModesFrom : Nat → Bool → Parser (List Text)
  | 0, _ => fail
  | fuel + 1, required => do
      match ← transactionMode? with
      | some mode => return mode :: (← transactionModesFrom fuel (← symbol? ","))
      | none => if required then fail else return []

/-- The properties of a transaction with a blank in front, or nothing. -/
def transactionModes : Parser Text := do
  let modes ← transactionModesFrom ((← get).length + 1) false
  return if modes.isEmpty then [] else ' ' :: listed modes

/-- The start of a transaction, behind `BEGIN`. -/
def begin (g : Grammar) : Parser Text := do
  let modifier ←
    if g.speaks [.sqlite, .generic] then
      oneOf? ["DEFERRED", "IMMEDIATE", "EXCLUSIVE", "TRY", "CATCH"]
    else pure none
  let word ← oneOf? ["TRANSACTION", "WORK"]
  return "BEGIN".toList ++ markOf modifier ++ markOf word ++ (← transactionModes)

/-- The start of a transaction, behind `START`. -/
def startTransaction : Parser Text := do
  keyword "TRANSACTION"
  return "START TRANSACTION".toList ++ (← transactionModes)

/-- Whether another transaction follows the one that ends. -/
def chain? : Parser Text := do
  let _ ← oneOf? ["TRANSACTION", "WORK"]
  if ← keyword? "AND" then
    let isEnd ← keyword? "NO"
    keyword "CHAIN"
    return mark "AND CHAIN" (!isEnd)
  else return []

/-- The undoing of a transaction, behind `ROLLBACK`. -/
def rollback : Parser Text := do
  let chain ← chain?
  if ← keyword? "TO" then
    let _ ← keyword? "SAVEPOINT"
    return "ROLLBACK".toList ++ chain ++ " TO SAVEPOINT ".toList ++ (← identifierText)
  else return "ROLLBACK".toList ++ chain

/-- A savepoint that is given up, behind the word. -/
def release : Parser Text := do
  let _ ← keyword? "SAVEPOINT"
  return "RELEASE SAVEPOINT ".toList ++ (← identifierText)

end Parser

end Sql

end Pushdown
