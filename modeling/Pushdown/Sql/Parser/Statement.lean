/-
**Statements of SQL.**

A statement is a query, a change of a table, a definition, a choice of a block or a statement about
the session.  Only queries are kept as trees.

Main definitions:

* `Sql.Parser.statement` — a statement;
* `Sql.Parser.script` — statements with semicolons between;
* `Sql.grammar` — the grammar that allows trees of a given depth.
-/

import Pushdown.Sql.Parser.Block
import Pushdown.Sql.Parser.Change
import Pushdown.Sql.Parser.Session

set_option autoImplicit false

namespace Pushdown

namespace Sql

namespace Parser

/-! ### Statements -/

/-- Whether a token starts a query. -/
def startsQuery (token : Option Token) : Bool :=
  isSymbol "(" token || isAnyKeyword ["SELECT", "WITH", "VALUES", "FROM"] token

/-- The statement that starts with a word and is no query; `written` is the word as it is written.
-/
def wordStatement (g : Grammar) (written : Text) : Parser Text :=
  let word := Keyword.capitals written
  let isOne (words : List String) : Bool := words.any fun w => w.toList == word
  if isOne ["INSERT", "UPDATE", "DELETE", "MERGE"] then change g word
  else if isOne ["REPLACE"] then if g.speaks [.mysql, .generic] then insert g word else fail
  else if isOne ["CREATE"] then create g
  else if isOne ["ALTER"] then alter g
  else if isOne ["DROP"] then drop g
  else if isOne ["TRUNCATE"] then truncate g
  else if isOne ["CASE"] then caseStatement g
  else if isOne ["IF"] then ifStatement g written
  else if isOne ["WHILE"] then whileStatement g written
  else if isOne ["RAISE"] then raiseStatement g
  else (session? g word).getD fail

/-- A statement. -/
def statement (g : Grammar) : Parser Statement := do
  let token ← peek
  if startsQuery token then .query <$> g.query
  else if isKeyword "REPLACE" token && g.dialect.name == .sqlite then
    -- Here the word is a choice about conflicts with `INSERT` left out.
    .other <$> insert g "INSERT".toList
  else
    match token with
    | some (.word written none) =>
        skip
        .other <$> wordStatement g written
    | _ => fail

/-- Statements, at most as many as there is fuel.  `isOpen` tells whether a statement has just ended
without a semicolon. -/
def scriptFrom (g : Grammar) : Nat → Bool → Parser (List Statement)
  | 0, _ => fail
  | fuel + 1, isOpen => do
      if ← semicolon? then scriptFrom g fuel false
      else
        match ← peek with
        | none => return []
        | some token =>
            -- Two statements need a semicolon between them.
            if isOpen then
              if isKeyword "END" (some token) then return [] else fail
            else return (← g.statement) :: (← scriptFrom g fuel true)

/-- Statements with semicolons between; the word `END` behind a statement ends them. -/
def script (g : Grammar) : Parser (List Statement) := do
  scriptFrom g ((← get).length + 1) false

end Parser

/-! ### Depth -/

/-- The grammar whose productions allow trees of at most a given depth. -/
def grammar (d : Dialect) : Nat → Grammar
  | 0 => .tooDeep d .anywhere
  | depth + 1 =>
      let g := grammar d depth
      { dialect := d
        place := .anywhere
        subexprAt := fun place => Parser.subexpr (g.placed place)
        primeAt := fun place => Parser.prime (g.placed place)
        queryAt := fun place => Parser.query (g.placed place)
        tableTreeAt := fun place => Parser.tableTree (g.placed place)
        columnAt := fun place => Parser.columnDefinition (g.placed place)
        statementAt := fun place => Parser.statement (g.placed place) }

end Sql

end Pushdown
