/-
**Prepared statements and cursors.**

A statement may be prepared and run later, a procedure called; a cursor moves over the rows of a
query.

Main definitions:

* `Sql.Parser.callProcedure`, `Sql.Parser.execute`, `Sql.Parser.prepare` — calls and prepared
  statements;
* `Sql.Parser.declare`, `Sql.Parser.fetchStatement` — cursors.
-/

import Pushdown.Sql.Parser.Session.Transaction

set_option autoImplicit false

namespace Pushdown

namespace Sql

namespace Parser

/-! ### Calls -/

/-- A call of a procedure, behind the word. -/
def callProcedure (g : Grammar) : Parser Text := do
  let name ← objectNameText
  if ← peekSymbol "(" then return "CALL ".toList ++ (← callText g name)
  else return "CALL ".toList ++ name

/-- The values that a prepared statement gets, behind its name. -/
def executeArguments (g : Grammar) : Parser Text := do
  if ← peekSymbol "(" then g.anyInParens g.exprText
  else
    let next ← peek
    let ends := next.isNone || isSemicolon next || isAnyKeyword ["USING", "OUTPUT", "DEFAULT"] next
    if ends then return [] else return ' ' :: (← g.list g.exprText)

/-- The run of a prepared statement, behind the word. -/
def execute (g : Grammar) : Parser Text := do
  let name ← objectNameText
  let arguments ← executeArguments g
  let into ← clause? "INTO" (g.list identifierText)
  let values ← clause? "USING" (g.list (exprAs g))
  let output ← phrase? [["OUTPUT"]]
  return "EXECUTE ".toList ++ name ++ arguments ++ into ++ values ++ output ++
    (← phrase? [["DEFAULT"]])

/-- A statement to be run later, behind the word. -/
def prepare (g : Grammar) : Parser Text := do
  let name ← identifierText
  let types ←
    if ← peekSymbol "(" then (' ' :: ·) <$> g.listInParens (dataTypeText g) else pure []
  keyword "AS"
  return "PREPARE ".toList ++ name ++ types ++ clause "AS" (← g.statement).render

/-- A prepared statement that is given up, behind the word. -/
def deallocate : Parser Text := do
  let word ← phrase? [["PREPARE"]]
  return "DEALLOCATE".toList ++ word ++ ' ' :: (← identifierText)

/-! ### Cursors -/

/-- A new cursor, behind the word. -/
def declare (g : Grammar) : Parser Text := do
  let name ← identifierText
  let binary ← phrase? [["BINARY"]]
  let sensitivity ← phrase? [["INSENSITIVE"], ["ASENSITIVE"]]
  let scroll ← phrase? [["SCROLL"], ["NO", "SCROLL"]]
  keyword "CURSOR"
  let hold ←
    match ← oneOf? ["WITH", "WITHOUT"] with
    | some word => do
        keyword "HOLD"
        pure (' ' :: word ++ " HOLD".toList)
    | none => pure []
  keyword "FOR"
  return "DECLARE ".toList ++ name ++ binary ++ sensitivity ++ scroll ++ " CURSOR".toList ++ hold ++
    clause "FOR" (← g.queryText)

/-- Where a cursor moves. -/
def direction (g : Grammar) : Parser Text := do
  match ← oneOf? ["NEXT", "PRIOR", "FIRST", "LAST", "ALL"] with
  | some word => return word
  | none =>
      match ← oneOf? ["ABSOLUTE", "RELATIVE"] with
      | some word => return word ++ ' ' :: (← unsignedNumber g)
      | none =>
          match ← oneOf? ["FORWARD", "BACKWARD"] with
          | some word =>
              if ← keyword? "ALL" then return word ++ " ALL".toList
              else return word ++ ' ' :: (← unsignedNumber g)
          | none => unsignedNumber g

/-- Rows of a cursor, behind the word. -/
def fetchStatement (g : Grammar) : Parser Text := do
  let way ← direction g
  let word ← oneOf ["FROM", "IN"]
  let name ← identifierText
  return "FETCH ".toList ++ way ++ ' ' :: word ++ ' ' :: name ++ (← clause? "INTO" objectNameText)

/-- A cursor that is closed, behind the word. -/
def close : Parser Text := do
  if ← keyword? "ALL" then return "CLOSE ALL".toList
  else return "CLOSE ".toList ++ (← identifierText)

end Parser

end Sql

end Pushdown
