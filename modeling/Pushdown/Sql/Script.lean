/-
**SQL texts.**

A text of SQL holds statements with semicolons between.  Reading it and writing the statements again
gives its canonical form: one blank between words, keywords in upper case, comments dropped.

Main definitions:

* `Sql.Error` — why a text is refused;
* `Sql.parse` — the statements of a text;
* `Sql.canonicalize` — the canonical form of a text.
-/

import Pushdown.Sql.Parser.Statement

set_option autoImplicit false

namespace Pushdown

namespace Sql

/-- Why a text is refused. -/
inductive Error where
  /-- It is no SQL of the dialect. -/
  | malformed
  /-- It holds no statement. -/
  | noStatement
  deriving DecidableEq, Repr

/-- The description of an error. -/
def Error.message : Error → Text
  | malformed => "failed to parse SQL: malformed statement".toList
  | noStatement => "no SQL statement found".toList

/-- How deep a tree may be. -/
def maxDepth : Nat := 50

/-- The statements of a text. -/
def parse (name : DialectName) (sql : Text) : Except Error (List Statement) :=
  match Token.scan name.dialect sql with
  | none => .error .malformed
  | some tokens =>
      match Parser.script (grammar name.dialect maxDepth) tokens with
      | .ok (statements, _) => .ok statements
      | .error _ => .error .malformed

/-- The canonical form of a text with at least one statement. -/
def canonicalize (name : DialectName) (sql : Text) : Except Error Text :=
  match parse name sql with
  | .error e => .error e
  | .ok [] => .error .noStatement
  | .ok statements => .ok (renderAll statements)

end Sql

end Pushdown
