/-
**Statements about a session.**

Such a statement looks at plans, starts and ends transactions, sets and shows variables, prepares
statements, moves cursors, grants rights, copies rows or looks after the database.  It is kept as
its text.

Main definitions:

* `Sql.Parser.sessionStatements` — the statements by their first word;
* `Sql.Parser.session?` — the statement that starts with a word.
-/

import Pushdown.Sql.Parser.Session.Copy
import Pushdown.Sql.Parser.Session.Cursor
import Pushdown.Sql.Parser.Session.Maintenance
import Pushdown.Sql.Parser.Session.Message
import Pushdown.Sql.Parser.Session.Right
import Pushdown.Sql.Parser.Session.Show

set_option autoImplicit false

namespace Pushdown

namespace Sql

namespace Parser

/-- A text behind a word. -/
def wordBehind (word : String) (p : Parser Text) : Parser Text := do
  return word.toList ++ ' ' :: (← p)

/-- A production that only some dialects have. -/
def onlyIn (g : Grammar) (names : List DialectName) (p : Parser Text) : Parser Text :=
  if g.speaks names then p else fail

/-- Statements about plans, transactions and variables, by their first word. -/
def settingStatements (g : Grammar) : List (String × Parser Text) :=
  [("EXPLAIN", explain g "EXPLAIN".toList), ("DESCRIBE", explain g "DESCRIBE".toList),
    ("DESC", explain g "DESC".toList), ("START", startTransaction), ("BEGIN", begin g),
    ("COMMIT", return "COMMIT".toList ++ (← chain?)), ("END", return "END".toList ++ (← chain?)),
    ("ROLLBACK", rollback), ("SAVEPOINT", wordBehind "SAVEPOINT" identifierText),
    ("RELEASE", release), ("SET", setStatement g), ("RESET", resetStatement),
    ("SHOW", showStatement g), ("USE", wordBehind "USE" objectNameText)]

/-- Statements about routines, cursors, rights and messages, by their first word. -/
def messageStatements (g : Grammar) : List (String × Parser Text) :=
  [("CALL", callProcedure g), ("EXECUTE", execute g), ("EXEC", execute g), ("PREPARE", prepare g),
    ("DEALLOCATE", deallocate), ("DECLARE", declare g), ("FETCH", fetchStatement g),
    ("OPEN", wordBehind "OPEN" identifierText), ("CLOSE", close), ("GRANT", grant g),
    ("REVOKE", revoke g), ("DENY", deny g), ("RAISERROR", raiseError g), ("ASSERT", assertion g),
    ("PRINT", wordBehind "PRINT" g.exprText), ("RETURN", returnStatement g),
    ("LISTEN", onlyIn g [.postgresql] (wordBehind "LISTEN" identifierText)),
    ("UNLISTEN", onlyIn g [.postgresql] unlisten), ("NOTIFY", onlyIn g [.postgresql] (notify g)),
    ("COMMENT", onlyIn g [.postgresql, .generic] (comment g)), ("PRAGMA", pragma g)]

/-- Statements that copy rows or look after the database, by their first word. -/
def maintenanceStatements (g : Grammar) : List (String × Parser Text) :=
  [("COPY", copy g), ("UNLOAD", unload g), ("EXPORT", exportData g), ("ANALYZE", analyzeTable g),
    ("VACUUM", vacuum g), ("OPTIMIZE", onlyIn g [.generic] (optimizeTable g)),
    ("MSCK", repairTable), ("RENAME", renameTables g), ("CACHE", cacheTable g),
    ("UNCACHE", uncacheTable), ("DISCARD", discard), ("FLUSH", flush g), ("ATTACH", attach g),
    ("DETACH", onlyIn g [.duckdb, .generic] detach),
    ("INSTALL", onlyIn g [.duckdb, .generic] (wordBehind "INSTALL" identifierText)),
    ("LOAD", load g), ("KILL", kill g), ("LOCK", onlyIn g [.mysql] (lockTables g)),
    ("UNLOCK", onlyIn g [.mysql] do
      keyword "TABLES"
      return "UNLOCK TABLES".toList)]

/-- Statements about a session, by their first word. -/
def sessionStatements (g : Grammar) : List (String × Parser Text) :=
  settingStatements g ++ messageStatements g ++ maintenanceStatements g

/-- The statement about a session that starts with a word, if there is one. -/
def session? (g : Grammar) (word : Text) : Option (Parser Text) :=
  ((sessionStatements g).find? fun entry => entry.1.toList == word).map Prod.snd

end Parser

end Sql

end Pushdown
