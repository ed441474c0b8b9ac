/-
**Queries of SQL.**

A query is a body with common tables in front, and behind it an order, limits, locks and steps.  A
change of a table may stand for a query.

Main definitions:

* `Sql.Parser.commonTable` — a common table;
* `Sql.Parser.query` — a query.
-/

import Pushdown.Sql.Parser.Query.Pipe
import Pushdown.Sql.Parser.Query.Tail

set_option autoImplicit false

namespace Pushdown

namespace Sql

namespace Parser

/-! ### Queries -/

/-- A common table. -/
def commonTable (g : Grammar) : Parser CommonTable := do
  let name ← identifier
  let columns ←
    if ← peekSymbol "(" then
      (' ' :: inParens ·) <$> parenthesized (g.list (aliasColumn g))
    else pure []
  keyword "AS"
  let mark ←
    if g.dialect.materialized then
      if ← keyword? "MATERIALIZED" then pure "MATERIALIZED ".toList
      else if ← keywords? ["NOT", "MATERIALIZED"] then pure "NOT MATERIALIZED ".toList
      else pure []
    else pure []
  let query ← parenthesized g.query
  let tail ← clause? "FROM" identifierText
  return .mk ⟨false, name, columns⟩ mark query tail

/-- What a query is behind its common tables: a change of a table, or a body and what follows it. -/
def queryCore (g : Grammar) (recursive : Bool) (commons : List CommonTable) : Parser Query := do
  match ← oneOf? ["INSERT", "UPDATE", "DELETE", "MERGE"] with
  | some word => return .mk recursive commons (.other (← change g word)) []
  | none =>
      let body ← queryBody g
      let tail ← queryTail g
      return .mk recursive commons body (tail ++ (← pipe? g))

/-- A query. -/
def query (g : Grammar) : Parser Query := do
  if ← keyword? "WITH" then
    let recursive ← keyword? "RECURSIVE"
    queryCore g recursive (← commaSeparated g.dialect (commonTable g))
  else queryCore g false []

end Parser

end Sql

end Pushdown
