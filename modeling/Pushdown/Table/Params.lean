/-
**Query parameters.**

Query parameters are a multimap that remembers order: names in the order of their first occurrence
and, under each name, its values in the order in which they were given.

Main definitions:

* `Params` — names with their values;
* `Params.append`, `Params.ofPairs` — one more value, and a whole sequence of them;
* `Params.get?`, `Params.pairs`, `Params.joined` — the values of a name, all pairs grouped by name,
  and one comma-joined value for each name.

Main results:

* `Params.get?_append` — an appended value is seen under its own name and nowhere else.
-/

import Pushdown.Json.Basic

set_option autoImplicit false

namespace Pushdown

/-- Names in first-occurrence order, each with its values in order. -/
structure Params where
  groups : List (Text × List Text)
  deriving DecidableEq, Repr

namespace Params

/-- No parameters. -/
def empty : Params := ⟨[]⟩

instance : Inhabited Params := ⟨empty⟩

/-- Adds a value behind the others of its name, or behind everything if the name is new. -/
def appendGroup (name value : Text) : List (Text × List Text) → List (Text × List Text)
  | [] => [(name, [value])]
  | (n, values) :: rest =>
      if n = name then (n, values ++ [value]) :: rest
      else (n, values) :: appendGroup name value rest

/-- The parameters with one more value. -/
def append (p : Params) (name value : Text) : Params := ⟨appendGroup name value p.groups⟩

/-- The parameters given one after the other. -/
def ofPairs (pairs : List (Text × Text)) : Params :=
  pairs.foldl (fun p pair => p.append pair.1 pair.2) empty

/-- The values of a name. -/
def get? (p : Params) (name : Text) : Option (List Text) := Dictionary.lookup name p.groups

/-- Whether there are no parameters. -/
def isEmpty (p : Params) : Bool := p.groups.isEmpty

/-- The number of names. -/
def size (p : Params) : Nat := p.groups.length

/-- All names with one value each, grouped by name. -/
def pairs (p : Params) : List (Text × Text) :=
  p.groups.flatMap fun g => g.2.map fun value => (g.1, value)

/-- One comma-joined value for each name. -/
def joined (p : Params) : List (Text × Text) :=
  p.groups.map fun g => (g.1, Text.joinWith [','] g.2)

/-- The JSON object of names and lists of values. -/
def toJson (p : Params) : Json :=
  .object (p.groups.map fun g => (g.1, .array (g.2.map .string)))

theorem lookup_appendGroup (name value n : Text) (groups : List (Text × List Text)) :
    Dictionary.lookup n (appendGroup name value groups) =
      if name = n then some ((Dictionary.lookup n groups).getD [] ++ [value])
      else Dictionary.lookup n groups := by
  induction groups with
  | nil => simp [appendGroup, Dictionary.lookup]
  | cons head rest ih =>
      obtain ⟨m, values⟩ := head
      by_cases hm : m = name
      · subst hm
        by_cases hn : m = n <;> simp [appendGroup, Dictionary.lookup, hn]
      · by_cases hn : m = n
        · subst hn
          simp [appendGroup, Dictionary.lookup, hm, Ne.symm hm]
        · simp [appendGroup, Dictionary.lookup, hm, hn, ih]

/-- An appended value comes last under its own name and changes no other name. -/
theorem get?_append (p : Params) (name value n : Text) :
    (p.append name value).get? n =
      if name = n then some ((p.get? n).getD [] ++ [value]) else p.get? n :=
  lookup_appendGroup name value n p.groups

end Params

end Pushdown
