/-
**Authentication of requests.**

Requests to trusted hosts carry an authentication header.  The header is read from one environment
variable, as `name=value`, and further trusted hosts from another one, so that no secret stands in a
configuration.

Main definitions:

* `Environment` — the environment variables;
* `Auth` — the names of the two variables and the hosts that are trusted anyway;
* `Auth.token?`, `Auth.trusts` — the header, and whether a host gets it;
* `Auth.validate` — refuses an empty variable name and hosts with a slash.
-/

import Pushdown.Config.Whitelist

set_option autoImplicit false

namespace Pushdown

/-- The environment variables that are set. -/
abbrev Environment := Text → Option Text

/-- Which hosts are trusted and where the authentication header is found. -/
structure Auth where
  tokenVariable : Text
  domainsVariable : Text
  domains : List Text
  deriving DecidableEq, Repr

namespace Auth

/-- The default variables and no hosts. -/
def default : Auth := ⟨"CL_AUTH_TOKEN".toList, "CL_WHITE_LISTED_DOMAINS".toList, []⟩

instance : Inhabited Auth := ⟨default⟩

/-- The environment variable of a name.  No variable has an empty name or one with an equals sign or
NUL. -/
def readVariable (env : Environment) (name : Text) : Option Text :=
  if name.isEmpty || name.contains '=' || name.any (fun c => c.toNat = 0) then none else env name

/-- The authentication header: the text before the first equals sign, trimmed and not empty, and the
text behind it. -/
def token? (a : Auth) (env : Environment) : Option (Text × Text) :=
  match readVariable env a.tokenVariable with
  | none => none
  | some raw =>
      match Text.splitFirst? '=' raw with
      | none => none
      | some (name, value) =>
          if Text.isBlankText name then none else some (Text.trim name, value)

/-- Whether a host gets the authentication header: it is listed, or equals a trimmed piece of the
variable between commas; empty pieces do not count. -/
def trusts (a : Auth) (env : Environment) (host : Text) : Bool :=
  a.domains.contains host ||
    match readVariable env a.domainsVariable with
    | none => false
    | some list =>
        (Text.splitAll ',' list).any fun piece => !piece.isEmpty && Text.trim piece == host

/-- The configuration with one more trusted host. -/
def withDomain (a : Auth) (host : Text) : Auth := { a with domains := a.domains ++ [host] }

/-- Refuses an empty variable name and hosts with a slash. -/
def validate (a : Auth) : Except ConfigError Unit :=
  if Text.isBlankText a.tokenVariable then .error .emptyTokenVariable
  else if a.domains.any fun host => host.contains '/' then .error .hostWithSlash
  else .ok ()

/-- The JSON object of an authentication configuration. -/
def toJson (a : Auth) : Json :=
  .object [("token_env".toList, .string a.tokenVariable),
    ("whitelisted_domains_env".toList, .string a.domainsVariable),
    ("whitelisted_domains".toList, .array (a.domains.map .string))]

end Auth

end Pushdown
