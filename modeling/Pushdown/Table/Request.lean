/-
**Requests.**

A virtual table on a host stands for one HTTP request: a `POST` if the table has a body and a `GET`
otherwise.  A trusted host gets the authentication header, over a header of the same name.

Main definitions:

* `Request` — the parts of a request;
* `Request.plan` — the request of a table on a host.
-/

import Pushdown.Config.Basic
import Pushdown.Table.Basic

set_option autoImplicit false

namespace Pushdown

/-- The method of a request. -/
inductive Method where
  | get
  | post
  deriving DecidableEq, Repr

/-- The name of a method. -/
def Method.text : Method → Text
  | get => "GET".toList
  | post => "POST".toList

/-- All that a client needs to fetch a virtual table. -/
structure Request where
  method : Method
  url : Text
  params : Params
  headers : Dictionary Text
  body : Option Json
  fragment : Text
  deriving DecidableEq

namespace Request

/-- A host without blanks around it and without slashes at its end. -/
def bareHost (host : Text) : Text := Text.trimCharRight '/' (Text.trim host)

/-- A path that is empty or starts with a slash. -/
def rootedPath : Text → Text
  | [] => []
  | '/' :: rest => '/' :: rest
  | path => '/' :: path

/-- Headers with the authentication header, if the host is trusted and there is one. -/
def authorize (auth : Auth) (env : Environment) (host : Text) (headers : Dictionary Text) :
    Dictionary Text :=
  if auth.trusts env host then
    match auth.token? env with
    | some (name, value) => headers.insert name value
    | none => headers
  else headers

/-- The request of a decoded table on a bare host. -/
def ofTable (auth : Auth) (env : Environment) (t : Table) (host : Text) (secure : Bool) : Request :=
  { method := if t.body.isSome then .post else .get
    url := (if secure then "https".toList else "http".toList) ++ "://".toList ++ host ++
      rootedPath t.path
    params := t.params
    headers := authorize auth env host t.headers
    body := t.body
    fragment := t.fragment }

/-- The request of a virtual table on a host. -/
def plan (auth : Auth) (env : Environment) (uri host : Text) (secure : Bool) :
    Except Table.DecodeError Request :=
  (Table.decode uri).map fun t => ofTable auth env t (bareHost host) secure

/-- The JSON object of a request; a missing body is left out. -/
def toJson (r : Request) : Json :=
  .object
    ([("method".toList, .string r.method.text), ("url".toList, .string r.url),
        ("query_params".toList, r.params.toJson), ("headers".toList, .ofDictionary r.headers)] ++
      (match r.body with
        | some body => [("body".toList, body)]
        | none => []) ++
      [("fragment".toList, .string r.fragment)])

end Request

end Pushdown
