/-
**Whitelists.**

A whitelist gives short column names a meaning: a header or a query parameter of the request.

Main definitions:

* `ConfigError` — why a configuration is refused;
* `Whitelist` — short names of headers and of query parameters;
* `Whitelist.validate` — refuses empty names, header names with a colon, and a short name with two
  meanings.
-/

import Pushdown.Json.Basic
import Pushdown.Text.Blank

set_option autoImplicit false

namespace Pushdown

/-- Why a configuration is refused. -/
inductive ConfigError where
  /-- A whitelist entry has an empty name. -/
  | emptyName (short canonical : Text)
  /-- A header name holds a colon. -/
  | colonInHeader (short canonical : Text)
  /-- A short name stands for a header and for a query parameter. -/
  | ambiguousName (short : Text)
  /-- The name of the token variable is empty. -/
  | emptyTokenVariable
  /-- A trusted host is not a bare host. -/
  | hostWithSlash
  /-- A dialect has an unknown name. -/
  | unknownDialect (name : Text)
  deriving DecidableEq, Repr

/-- The description of an error. -/
def ConfigError.message (e : ConfigError) : Text :=
  "Configuration error: ".toList ++
    match e with
    | .emptyName short canonical =>
        "whitelist entry '".toList ++ short ++ "' -> '".toList ++ canonical ++
          "' has an empty name".toList
    | .colonInHeader short canonical =>
        "whitelisted header '".toList ++ short ++ "' maps to '".toList ++ canonical ++
          "', which contains ':'".toList
    | .ambiguousName short =>
        '\'' :: short ++ "' is whitelisted both as a header and as a query parameter".toList
    | .emptyTokenVariable => "auth.token_env must not be empty".toList
    | .hostWithSlash => "auth.whitelisted_domains must list bare hosts, not URLs".toList
    | .unknownDialect name => "unknown SQL dialect: ".toList ++ name

/-- Short names with the canonical names they stand for. -/
structure Whitelist where
  headers : Dictionary Text
  params : Dictionary Text
  deriving DecidableEq

namespace Whitelist

/-- No names. -/
def empty : Whitelist := ⟨Dictionary.empty, Dictionary.empty⟩

instance : Inhabited Whitelist := ⟨empty⟩

/-- Whether there are no names. -/
def isEmpty (w : Whitelist) : Bool := w.headers.isEmpty && w.params.isEmpty

/-- Whether one of the two names of an entry is blank. -/
def hasEmptyName (e : Text × Text) : Bool := Text.isBlankText e.1 || Text.isBlankText e.2

/-- Refuses entries that no request can honour; headers come before parameters. -/
def validate (w : Whitelist) : Except ConfigError Unit :=
  match (w.headers.entries ++ w.params.entries).find? hasEmptyName with
  | some (short, canonical) => .error (.emptyName short canonical)
  | none =>
      match w.headers.entries.find? fun e => e.2.contains ':' with
      | some (short, canonical) => .error (.colonInHeader short canonical)
      | none =>
          match w.headers.keys.find? fun short => (w.params.get? short).isSome with
          | some short => .error (.ambiguousName short)
          | none => .ok ()

/-- The JSON object of a whitelist. -/
def toJson (w : Whitelist) : Json :=
  .object [("headers".toList, .ofDictionary w.headers),
    ("query_params".toList, .ofDictionary w.params)]

end Whitelist

end Pushdown
