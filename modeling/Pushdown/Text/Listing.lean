/-
**Tables written as text.**

A long table of characters is written as text: its rows hold the hexadecimal numbers of characters
with blanks between, and a semicolon stands between rows.

Main definitions:

* `Text.Listing.rows` — the rows of a table;
* `Text.Listing.startingWith?` — the row that starts with a number.
-/

import Pushdown.Text.Basic

set_option autoImplicit false

namespace Pushdown

namespace Text

namespace Listing

/-- The number that hexadecimal digits stand for. -/
def number (digits : Text) : Nat :=
  digits.foldl (fun n c => n * 16 + (hexValue? c).getD 0) 0

/-- The numbers of a row. -/
def row (s : Text) : List Nat := (splitAll ' ' s).map number

/-- The rows of a table. -/
def rows (lines : List String) : List (List Nat) :=
  lines.flatMap fun line => (splitAll ';' line.toList).map row

/-- What follows a number in the row that starts with it. -/
def startingWith? (n : Nat) (table : List (List Nat)) : Option (List Nat) :=
  table.findSome? fun row => if row.head? = some n then some row.tail else none

end Listing

end Text

end Pushdown
