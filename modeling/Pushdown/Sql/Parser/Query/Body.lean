/-
**Bodies of SQL queries.**

A body is a select, a query in parentheses, rows of values, a named table, or two bodies with a set
operation between; `INTERSECT` binds tighter than the other set operations.

Main definitions:

* `Sql.Parser.setQuantifier` — what a set operation does with equal rows;
* `Sql.Parser.queryBody` — a body.
-/

import Pushdown.Sql.Parser.Select

set_option autoImplicit false

namespace Pushdown

namespace Sql

namespace Parser

/-! ### Simple bodies -/

/-- Whether a token starts a select. -/
def startsSelect (g : Grammar) (token : Option Token) : Bool :=
  isKeyword "SELECT" token || (g.dialect.fromFirst && isKeyword "FROM" token)

/-- A word, quoted or not, without its quotes. -/
def wordText : Parser Text := do
  match ← next with
  | .word text _ => return text
  | _ => fail

/-- A table as a body, behind its word.  Two tokens behind a single name are passed over. -/
def tableBody : Parser SetExpr := do
  let first ← wordText
  let isQualified ← symbol? "."
  if isQualified then return .other ("TABLE ".toList ++ first ++ '.' :: (← wordText))
  else
    skip
    skip
    return .other ("TABLE ".toList ++ first)

/-- A body without set operations. -/
def simpleBody (g : Grammar) : Parser SetExpr := do
  if startsSelect g (← peek) then .select <$> select g
  else if ← peekSymbol "(" then .query <$> parenthesized g.query
  else
    match ← oneOf? ["VALUES", "VALUE"] with
    | some word => return .other (word ++ ' ' :: (← rows g (g.dialect.name = .mysql)))
    | none =>
        if ← keyword? "TABLE" then tableBody else fail

/-! ### Set operations -/

/-- What may stand behind a set operation. -/
def setQuantifier : Parser Text := do
  if ← keywords? ["DISTINCT", "BY", "NAME"] then return " DISTINCT BY NAME".toList
  else if ← keywords? ["BY", "NAME"] then return " BY NAME".toList
  else if ← keywords? ["ALL", "BY", "NAME"] then return " ALL BY NAME".toList
  else return markOf (← oneOf? ["ALL", "DISTINCT"])

/-- A set operation, if there is one of some words. -/
def setOperator? (words : List String) : Parser (Option Text) := do
  match ← oneOf? words with
  | some word => return some (word ++ (← setQuantifier))
  | none => return none

/-- A body and the intersections behind it, at most as many as there is fuel. -/
def intersections (g : Grammar) : Nat → SetExpr → Parser SetExpr
  | 0, _ => fail
  | fuel + 1, left => do
      match ← setOperator? ["INTERSECT"] with
      | some op => intersections g fuel (.combine op left (← simpleBody g))
      | none => return left

/-- A body with intersections only. -/
def tightBody (g : Grammar) : Parser SetExpr := do
  let first ← simpleBody g
  intersections g ((← get).length + 1) first

/-- A body and the set operations behind it, at most as many as there is fuel. -/
def combinations (g : Grammar) : Nat → SetExpr → Parser SetExpr
  | 0, _ => fail
  | fuel + 1, left => do
      match ← setOperator? ["INTERSECT"] with
      | some op => combinations g fuel (.combine op left (← simpleBody g))
      | none =>
          match ← setOperator? ["UNION", "EXCEPT", "MINUS"] with
          | some op => combinations g fuel (.combine op left (← tightBody g))
          | none => return left

/-- A body. -/
def queryBody (g : Grammar) : Parser SetExpr := do
  let first ← simpleBody g
  combinations g ((← get).length + 1) first

end Parser

end Sql

end Pushdown
