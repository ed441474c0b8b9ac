/-
**Header pairs.**

A request header travels in a query value as `name:value`; the first colon separates the two.  A
table may name a header several times.  Read with all values, a header has its distinct values in
increasing order, joined by commas, and pairs with an empty name or value count for nothing; read
with single values, the last pair of each name counts.

Main definitions:

* `Header` — a name and a value;
* `Header.parse?` — the pair a query value stands for;
* `Header.mergeAll`, `Header.mergeLast` — the two readings of a list of pairs.
-/

import Pushdown.Text.Dictionary

set_option autoImplicit false

namespace Pushdown

/-- A request header. -/
structure Header where
  name : Text
  value : Text
  deriving DecidableEq, Repr

namespace Header

/-- The header `name:value` stands for, split at the first colon. -/
def parse? (pair : Text) : Option Header :=
  (Text.splitFirst? ':' pair).map fun halves => ⟨halves.1, halves.2⟩

/-- A set of values, as the keys of a dictionary. -/
abbrev Values := Dictionary Unit

/-- Adds a pair to the values found so far, unless its name or value is empty. -/
def collect (found : Dictionary Values) (h : Header) : Dictionary Values :=
  if h.name.isEmpty || h.value.isEmpty then found
  else found.insert h.name (((found.get? h.name).getD Dictionary.empty).insert h.value ())

/-- Every name with its distinct values in increasing order, joined by commas. -/
def mergeAll (headers : List Header) : Dictionary Text :=
  (headers.foldl collect Dictionary.empty).map fun values => Text.joinWith [','] values.keys

/-- Every name with its last value. -/
def mergeLast (headers : List Header) : Dictionary Text :=
  Dictionary.ofList (headers.map fun h => (h.name, h.value))

end Header

end Pushdown
