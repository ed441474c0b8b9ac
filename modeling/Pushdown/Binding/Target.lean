/-
**Binding targets.**

A predicate column names a part of the request in one of two ways: by a tag in front of the name, or
by a short name of the whitelist.  Any other column belongs to the statement.

Main definitions:

* `Target` — a query parameter or a header;
* `Target.pair` — the query pair that carries a value to a target;
* `Target.resolve?` — the target of a column name;
* `Binding` — a target with the values of a predicate.
-/

import Pushdown.Config.Whitelist
import Pushdown.Table.Append

set_option autoImplicit false

namespace Pushdown

/-- Where a predicate value goes in the request. -/
inductive Target where
  | param (name : Text)
  | header (name : Text)
  deriving DecidableEq, Repr

namespace Target

/-- The name of the parameter or header. -/
def name : Target → Text
  | param name => name
  | header name => name

/-- The query pair that carries a value. -/
def pair : Target → Text → Text
  | param name, value => Table.paramPair name value
  | header name, value => Table.headerPair name value

/-- The word for the kind of a target. -/
def kindText : Target → Text
  | param _ => "query_param".toList
  | header _ => "header".toList

/-- The description of a target. -/
def describe : Target → Text
  | param name => "query param ".toList ++ name
  | header name => "header ".toList ++ name

/-- The tag of columns that are query parameters. -/
def paramTag : Text := "QUERY_PARAM".toList

/-- The tag of columns that are headers. -/
def headerTag : Text := "HEADER".toList

/-- The name behind a tag, without quotes around it; an empty one is no name. -/
def taggedName? (rest : Text) : Option Text :=
  match Text.trimChar '"' rest with
  | [] => none
  | name => some name

/-- The target of a column name, quotes around it ignored.  A tag decides before the whitelist, and
a header of the whitelist before a parameter. -/
def resolve? (w : Whitelist) (column : Text) : Option Target :=
  let column := Text.trimChar '"' column
  match Text.dropPrefix? paramTag column with
  | some rest => (taggedName? rest).map param
  | none =>
      match Text.dropPrefix? headerTag column with
      | some rest => (taggedName? rest).map header
      | none =>
          match w.headers.get? column with
          | some canonical => some (header canonical)
          | none => (w.params.get? column).map param

/-- The JSON object of a target. -/
def toJson (t : Target) : Json :=
  .object [("kind".toList, .string t.kindText), ("name".toList, .string t.name)]

end Target

/-- A predicate that goes to the request: one target and its values in order. -/
structure Binding where
  target : Target
  values : List Text
  deriving DecidableEq, Repr

namespace Binding

/-- The JSON object of a binding. -/
def toJson (b : Binding) : Json :=
  .object [("target".toList, b.target.toJson), ("values".toList, .array (b.values.map .string))]

end Binding

end Pushdown
