/-
**Looking after a database.**

Statistics are gathered, tables are cleaned up, repaired and kept in memory, databases are attached
and extensions loaded.

Main definitions:

* `Sql.Parser.analyzeTable`, `Sql.Parser.vacuum`, `Sql.Parser.optimizeTable`,
  `Sql.Parser.repairTable` — tables that are looked after;
* `Sql.Parser.cacheTable`, `Sql.Parser.uncacheTable`, `Sql.Parser.flush` — what is kept in memory;
* `Sql.Parser.attach`, `Sql.Parser.detach`, `Sql.Parser.load` — databases and extensions.
-/

import Pushdown.Sql.Parser.Session.Transaction

set_option autoImplicit false

namespace Pushdown

namespace Sql

namespace Parser

/-! ### Tables -/

/-- Which statistics are gathered; a later choice takes the place of an earlier one. -/
structure Analysis where
  partition : Text := []
  computed : Text := []
  scanless : Text := []
  cached : Text := []
  columns : Text := []

/-- Which statistics are gathered, in any order, as far as there is fuel. -/
def analysisFrom (g : Grammar) : Nat → Analysis → Parser Analysis
  | 0, a => return a
  | fuel + 1, a => do
      if ← keyword? "PARTITION" then
        let values ← g.listInParens g.exprText
        analysisFrom g fuel { a with partition := clause "PARTITION" values }
      else if ← keyword? "NOSCAN" then
        analysisFrom g fuel { a with scanless := " NOSCAN".toList }
      else if ← keyword? "FOR" then
        keyword "COLUMNS"
        let names ← attempt (g.list identifierText)
        analysisFrom g fuel { a with columns := " FOR COLUMNS".toList ++ markOf names }
      else if ← keyword? "CACHE" then
        keyword "METADATA"
        analysisFrom g fuel { a with cached := " CACHE METADATA".toList }
      else if ← keyword? "COMPUTE" then
        keyword "STATISTICS"
        analysisFrom g fuel { a with computed := " COMPUTE STATISTICS".toList }
      else return a

/-- Statistics of a table, behind the word. -/
def analyzeTable (g : Grammar) : Parser Text := do
  let word ← phrase? [["TABLE"]]
  let name ← objectNameText
  let a ← analysisFrom g ((← get).length + 1) {}
  return "ANALYZE".toList ++ word ++ ' ' :: name ++ a.partition ++ a.computed ++ a.scanless ++
    a.cached ++ a.columns

/-- A table that is cleaned up, behind the word. -/
def vacuum (g : Grammar) : Parser Text := do
  let full ← phrase? [["FULL"]]
  let sorting ← phrase? [["SORT", "ONLY"]]
  let deleting ← phrase? [["DELETE", "ONLY"]]
  let indexing ← phrase? [["REINDEX"]]
  let clusters ← phrase? [["RECLUSTER"]]
  let manner := full ++ sorting ++ deleting ++ indexing ++ clusters
  match ← attempt objectNameText with
  | none => return "VACUUM".toList ++ manner
  | some name =>
      let threshold ←
        if ← keyword? "TO" then
          let value ← literalText g
          keyword "PERCENT"
          pure (clause "TO" value ++ " PERCENT".toList)
        else pure []
      return "VACUUM".toList ++ manner ++ ' ' :: name ++ threshold ++ (← phrase? [["BOOST"]])

/-- The part of a table that is merged. -/
def mergedPart (g : Grammar) : Parser Text := do
  if ← keyword? "ID" then return "ID ".toList ++ (← identifierText) else g.exprText

/-- A table whose parts are merged, behind the word. -/
def optimizeTable (g : Grammar) : Parser Text := do
  keyword "TABLE"
  let name ← objectNameText
  let cluster ← onCluster?
  let partition ← clause? "PARTITION" (mergedPart g)
  let final ← phrase? [["FINAL"]]
  let single ←
    if ← keyword? "DEDUPLICATE" then (" DEDUPLICATE".toList ++ ·) <$> clause? "BY" g.exprText
    else pure []
  return "OPTIMIZE TABLE ".toList ++ name ++ cluster ++ partition ++ final ++ single

/-- What is done with the partitions of a table that is repaired, if it is said. -/
def repairAction : Parser Text := do
  let action ← phrase? [["ADD"], ["DROP"], ["SYNC"]]
  keyword "PARTITIONS"
  return if action.isEmpty then [] else action ++ " PARTITIONS".toList

/-- A table that is repaired, behind the word. -/
def repairTable : Parser Text := do
  let word ← phrase? [["REPAIR"]]
  keyword "TABLE"
  let name ← objectNameText
  return "MSCK".toList ++ word ++ " TABLE ".toList ++ name ++ (← orNothing repairAction)

/-- A table that is renamed, and its new name. -/
def newTableName : Parser Text := do
  let old ← objectNameText
  keyword "TO"
  return old ++ clause "TO" (← objectNameText)

/-- Tables that are renamed, behind the word. -/
def renameTables (g : Grammar) : Parser Text := do
  keyword "TABLE"
  return "RENAME TABLE ".toList ++ (← g.list newTableName)

/-- A table that is locked for a session. -/
def lockedTable : Parser Text := do
  let name ← identifierText
  let second ← aliasUnless ["READ", "WRITE", "LOW_PRIORITY"]
  let manner ← phrase? [["READ", "LOCAL"], ["READ"], ["WRITE"], ["LOW_PRIORITY", "WRITE"]]
  if manner.isEmpty then fail
  return name ++ clauseOf "AS" (second.map fun s => s.2.render) ++ manner

/-- Tables that are locked for a session, behind the word. -/
def lockTables (g : Grammar) : Parser Text := do
  keyword "TABLES"
  return "LOCK TABLES ".toList ++ (← g.list lockedTable)

/-! ### Memory -/

/-- What a table that is kept in memory is filled with: nothing at the end of the text, and else a
query. -/
def cachedQuery (g : Grammar) : Parser Text := do
  match ← peek with
  | none => return []
  | some (.word _ _) =>
      let word ← phrase? [["AS"]]
      return word ++ ' ' :: (← g.queryText)
  | _ => fail

/-- A table that is kept in memory, behind the word. -/
def cacheTable (g : Grammar) : Parser Text := do
  let flag ← if ← peekKeyword "TABLE" then pure [] else (' ' :: ·) <$> objectNameText
  keyword "TABLE"
  let name ← objectNameText
  let options ← options? g "OPTIONS"
  let options := if options = " OPTIONS()".toList then [] else options
  return "CACHE".toList ++ flag ++ " TABLE ".toList ++ name ++ options ++ (← cachedQuery g)

/-- A table that is kept in memory no longer, behind the word. -/
def uncacheTable : Parser Text := do
  keyword "TABLE"
  let guard ← ifExists?
  return "UNCACHE TABLE".toList ++ guard ++ ' ' :: (← objectNameText)

/-- What is given up. -/
def discard : Parser Text := do
  let word ← oneOf ["ALL", "PLANS", "SEQUENCES", "TEMP", "TEMPORARY"]
  return "DISCARD ".toList ++ if word = "TEMPORARY".toList then "TEMP".toList else word

/-- The tables that are written to disk, and how. -/
structure FlushedTables where
  names : Text := []
  lock : Text := []
  exported : Text := []

/-- The tables that are written to disk, as far as there is fuel.  The first token that is no word
ends them and belongs to them. -/
def flushedTablesFrom (g : Grammar) : Nat → FlushedTables → Parser FlushedTables
  | 0, t => return t
  | fuel + 1, t => do
      let token ← peek
      match token with
      | some (.word text quote) =>
          if quote.isNone && Keyword.isReserved (Keyword.capitals text) then
            skip
            if isKeyword "WITH" token then
              flushedTablesFrom g fuel { t with lock := ← phrase? [["READ", "LOCK"]] }
            else if isKeyword "FOR" token then
              flushedTablesFrom g fuel { t with exported := ← phrase? [["EXPORT"]] }
            else flushedTablesFrom g fuel t
          else flushedTablesFrom g fuel { t with names := ' ' :: (← g.list objectNameText) }
      | _ =>
          skip
          return t

/-- The tables that are written to disk, behind the word. -/
def flushedTables (g : Grammar) : Parser Text := do
  let t ← flushedTablesFrom g ((← get).length + 1) {}
  let lock := if t.lock.isEmpty then [] else " WITH READ LOCK".toList
  let exported := if t.exported.isEmpty then [] else " FOR EXPORT".toList
  return " TABLES".toList ++ t.names ++ lock ++ exported

/-- What is written to disk or forgotten, behind the word. -/
def flush (g : Grammar) : Parser Text := do
  if !g.speaks [.mysql, .generic] then fail
  let place ← phrase? [["NO_WRITE_TO_BINLOG"], ["LOCAL"]]
  let kind ←
    phrase? [["BINARY", "LOGS"], ["ENGINE", "LOGS"], ["ERROR", "LOGS"], ["GENERAL", "LOGS"],
      ["HOSTS"], ["PRIVILEGES"], ["OPTIMIZER_COSTS"], ["SLOW", "LOGS"], ["STATUS"],
      ["USER_RESOURCES"], ["LOGS"]]
  let what ←
    if !kind.isEmpty then pure kind
    else if ← keywords? ["RELAY", "LOGS"] then
      (" RELAY LOGS".toList ++ ·) <$> clauseBehind? ["FOR", "CHANNEL"] objectNameText
    else
      keyword "TABLES"
      flushedTables g
  return "FLUSH".toList ++ place ++ what

/-! ### Databases, extensions and processes -/

/-- An option of a database that is attached. -/
def attachOption : Parser Text := do
  if ← keyword? "READ_ONLY" then
    match ← oneOf? ["TRUE", "FALSE"] with
    | some word => return "READ_ONLY ".toList ++ word.map Char.toLower
    | none => return "READ_ONLY".toList
  else
    keyword "TYPE"
    return "TYPE ".toList ++ (← identifierText)

/-- A database that is attached, behind the word. -/
def attach (g : Grammar) : Parser Text := do
  let word ← phrase? [["DATABASE"]]
  if g.dialect.name = .duckdb then
    let guard ← unlessExists?
    let path ← identifierText
    let name ← clause? "AS" identifierText
    let options ←
      if ← peekSymbol "(" then
        (' ' :: inParens ·) <$> parenthesized (listed <$> listOf false attachOption)
      else pure []
    return "ATTACH".toList ++ word ++ guard ++ ' ' :: path ++ name ++ options
  else
    let file ← g.exprText
    keyword "AS"
    return "ATTACH".toList ++ word ++ ' ' :: file ++ clause "AS" (← identifierText)

/-- A database that is detached, behind the word. -/
def detach : Parser Text := do
  let word ← phrase? [["DATABASE"]]
  let guard ← ifExists?
  return "DETACH".toList ++ word ++ guard ++ ' ' :: (← identifierText)

/-- An extension that is loaded, behind the word. -/
def load (g : Grammar) : Parser Text := do
  if g.speaks [.postgresql, .duckdb, .generic] then return "LOAD ".toList ++ (← identifierText)
  else fail

/-- A process that is ended, behind the word. -/
def kill (g : Grammar) : Parser Text := do
  let kind ← phrase? [["CONNECTION"], ["QUERY"], ["MUTATION"]]
  let number ← natural
  if kind = " MUTATION".toList ∧ g.dialect.name ≠ .generic then fail
  return "KILL".toList ++ kind ++ ' ' :: number

/-- The result of a query that is written to files, behind the word. -/
def exportData (g : Grammar) : Parser Text := do
  keyword "DATA"
  let connection ← clauseBehind? ["WITH", "CONNECTION"] objectNameText
  keyword "OPTIONS"
  let options ← g.listInParens (tableOption g)
  keyword "AS"
  return "EXPORT DATA".toList ++ connection ++ " OPTIONS".toList ++ options ++
    clause "AS" (← g.queryText)

end Parser

end Sql

end Pushdown
