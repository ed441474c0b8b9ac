/-
**JSON values.**

A JSON value as a tree.  Integers in the ranges of unsigned and signed 64 bit words are kept
exactly; every other number is one of double precision.  The members of an object are listed in the
order in which they are written: a value that was read lists them by increasing name, one member for
each name, and a document of this library lists them as its format fixes.

Main definitions:

* `Json` — the tree;
* `Json.ofMembers` — the object in which the last member of each name counts;
* `Json.decEq` — equality is decidable.
-/

import Pushdown.Number.Double
import Pushdown.Text.Dictionary

set_option autoImplicit false

namespace Pushdown

/-- A JSON value. -/
inductive Json where
  | null
  | bool (b : Bool)
  | integer (n : Int)
  | double (x : Double)
  | string (s : Text)
  | array (items : List Json)
  | object (members : List (Text × Json))

namespace Json

instance : Inhabited Json := ⟨null⟩

/-- An object with its members by increasing name, the last of equal names. -/
def ofMembers (members : List (Text × Json)) : Json :=
  object (Dictionary.ofList members).entries

/-- An object whose members are the entries of a dictionary of texts. -/
def ofDictionary (d : Dictionary Text) : Json :=
  object (d.entries.map fun e => (e.1, string e.2))

/-! ### Decidable equality -/

mutual

/-- Whether two values are the same tree. -/
def same : Json → Json → Bool
  | null, null => true
  | bool a, bool b => a == b
  | integer a, integer b => decide (a = b)
  | double a, double b => decide (a = b)
  | string a, string b => decide (a = b)
  | array a, array b => sameItems a b
  | object a, object b => sameMembers a b
  | _, _ => false

/-- Whether two lists of items are the same. -/
def sameItems : List Json → List Json → Bool
  | [], [] => true
  | a :: as, b :: bs => same a b && sameItems as bs
  | _, _ => false

/-- Whether two lists of members are the same. -/
def sameMembers : List (Text × Json) → List (Text × Json) → Bool
  | [], [] => true
  | (k, a) :: as, (l, b) :: bs => decide (k = l) && same a b && sameMembers as bs
  | _, _ => false

end

mutual

theorem same_iff : ∀ a b : Json, same a b = true ↔ a = b
  | null, b => by cases b <;> simp [same]
  | bool a, b => by cases b <;> simp [same]
  | integer a, b => by cases b <;> simp [same]
  | double a, b => by cases b <;> simp [same]
  | string a, b => by cases b <;> simp [same]
  | array a, b => by cases b <;> simp [same, sameItems_iff a]
  | object a, b => by cases b <;> simp [same, sameMembers_iff a]

theorem sameItems_iff : ∀ a b : List Json, sameItems a b = true ↔ a = b
  | [], b => by cases b <;> simp [sameItems]
  | a :: as, b => by
      cases b with
      | nil => simp [sameItems]
      | cons b bs => simp [sameItems, same_iff a, sameItems_iff as]

theorem sameMembers_iff : ∀ a b : List (Text × Json), sameMembers a b = true ↔ a = b
  | [], b => by cases b <;> simp [sameMembers]
  | (k, a) :: as, b => by
      cases b with
      | nil => simp [sameMembers]
      | cons b bs =>
          obtain ⟨l, b⟩ := b
          simp [sameMembers, same_iff a, sameMembers_iff as]

end

instance decEq : DecidableEq Json := fun a b =>
  if h : same a b = true then isTrue ((same_iff a b).1 h)
  else isFalse fun e => h ((same_iff a b).2 e)

end Json

end Pushdown
