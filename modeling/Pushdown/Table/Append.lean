/-
**Appending to a virtual table.**

A table grows by single query pairs without being decoded: the pair goes to the end of the query,
in front of the fragment.

Main definitions:

* `Table.paramPair`, `Table.headerPair` — the pairs of a parameter and of a header;
* `Table.appendPair` — the text of a table with one more pair.
-/

import Pushdown.Table.Basic

set_option autoImplicit false

namespace Pushdown

namespace Table

/-- The pair of a parameter. -/
def paramPair (name value : Text) : Text := Percent.encode name ++ '=' :: Percent.encode value

/-- The pair of a header. -/
def headerPair (name value : Text) : Text :=
  headerPrefix ++ '=' :: Percent.encode name ++ ':' :: Percent.encode value

/-- What stands between the front of a table and a further pair. -/
def pairSeparator (front : Text) : Text :=
  if !front.contains '?' then ['?']
  else
    match front.getLast? with
    | some '&' => []
    | some '?' => []
    | _ => ['&']

/-- The text of a table with one more pair at the end of its query. -/
def appendPair (uri pair : Text) : Text :=
  match Text.splitFirst? '#' uri with
  | some (front, fragment) => front ++ pairSeparator front ++ pair ++ '#' :: fragment
  | none => uri ++ pairSeparator uri ++ pair

end Table

end Pushdown
