/-
**Configuration.**

A configuration names the SQL dialect, the whitelist and the authentication.  Every part has a
default.

Main definitions:

* `DialectName` — the six dialects, `DialectName.text` and `DialectName.parse`;
* `Config` — the three parts;
* `Config.validate` — refuses what neither the whitelist nor the authentication can honour.
-/

import Pushdown.Config.Auth

set_option autoImplicit false

namespace Pushdown

/-- The SQL dialects that statements may be written in. -/
inductive DialectName where
  | generic
  | postgresql
  | mysql
  | sqlite
  | ansi
  | duckdb
  deriving DecidableEq, Repr, Inhabited

namespace DialectName

/-- All dialects. -/
def all : List DialectName := [generic, postgresql, mysql, sqlite, ansi, duckdb]

/-- The name of a dialect. -/
def text : DialectName → Text
  | generic => "generic".toList
  | postgresql => "postgresql".toList
  | mysql => "mysql".toList
  | sqlite => "sqlite".toList
  | ansi => "ansi".toList
  | duckdb => "duckdb".toList

/-- The short name of the default dialect. -/
def postgres : Text := "postgres".toList

/-- The dialect of a name in lower case. -/
def ofName? (name : Text) : Option DialectName :=
  if name = postgres then some postgresql else all.find? fun d => d.text == name

/-- The dialect of a name in any case with blanks around it. -/
def parse (name : Text) : Except ConfigError DialectName :=
  match ofName? (Text.toLower (Text.trim name)) with
  | some d => .ok d
  | none => .error (.unknownDialect name)

end DialectName

/-- A configuration. -/
structure Config where
  dialect : DialectName
  whitelist : Whitelist
  auth : Auth
  deriving DecidableEq

namespace Config

/-- All defaults. -/
def default : Config := ⟨.postgresql, .empty, .default⟩

instance : Inhabited Config := ⟨default⟩

/-- Refuses what cannot be honoured; the whitelist is judged first. -/
def validate (c : Config) : Except ConfigError Unit :=
  match c.whitelist.validate with
  | .error e => .error e
  | .ok () => c.auth.validate

/-- The JSON object of a configuration. -/
def toJson (c : Config) : Json :=
  .object [("dialect".toList, .string c.dialect.text), ("whitelist".toList, c.whitelist.toJson),
    ("auth".toList, c.auth.toJson)]

end Config

end Pushdown
