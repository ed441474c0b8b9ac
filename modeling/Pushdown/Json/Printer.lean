/-
**Writing JSON.**

Compact text has no blanks; indented text puts every item and member on a line of its own, two
spaces deeper than its container.  In strings only the quote, the backslash and the control
characters below space are escaped.

Main definitions:

* `Json.quote` — a string literal;
* `Json.compact` — the text without blanks;
* `Json.pretty` — the indented text.
-/

import Pushdown.Json.Basic
import Pushdown.Number.Shortest

set_option autoImplicit false

namespace Pushdown

namespace Json

/-- A hexadecimal digit in lower case. -/
def lowerHex (n : Nat) : Char := (Text.hexDigit n).toLower

/-- One character of a string literal. -/
def escape (c : Char) : Text :=
  if c = '"' then ['\\', '"']
  else if c = '\\' then ['\\', '\\']
  else if c = '\n' then ['\\', 'n']
  else if c = '\r' then ['\\', 'r']
  else if c = '\t' then ['\\', 't']
  else if c.toNat = 8 then ['\\', 'b']
  else if c.toNat = 12 then ['\\', 'f']
  else if c.toNat < 32 then
    ['\\', 'u', '0', '0', lowerHex (c.toNat / 16), lowerHex (c.toNat % 16)]
  else [c]

/-- A string literal. -/
def quote (s : Text) : Text := '"' :: s.flatMap escape ++ ['"']

/-- An integer in decimal digits. -/
def integerText (n : Int) : Text :=
  if n < 0 then '-' :: Text.ofNat n.natAbs else Text.ofNat n.natAbs

/-- The text of a value that is no container. -/
def scalarText : Json → Text
  | null => "null".toList
  | bool true => "true".toList
  | bool false => "false".toList
  | integer n => integerText n
  | double x => x.text
  | string s => quote s
  | array _ => []
  | object _ => []

mutual

/-- The text without blanks. -/
def compact : Json → Text
  | array items => '[' :: compactItems items ++ [']']
  | object members => '\x7b' :: compactMembers members ++ ['\x7d']
  | scalar => scalarText scalar

/-- Items with commas between them. -/
def compactItems : List Json → Text
  | [] => []
  | item :: [] => compact item
  | item :: rest => compact item ++ ',' :: compactItems rest

/-- Members with commas between them. -/
def compactMembers : List (Text × Json) → Text
  | [] => []
  | (name, value) :: [] => quote name ++ ':' :: compact value
  | (name, value) :: rest => quote name ++ ':' :: compact value ++ ',' :: compactMembers rest

end

/-- A line break and `depth` levels of indentation. -/
def lineBreak (depth : Nat) : Text := '\n' :: List.replicate (2 * depth) ' '

mutual

/-- The indented text of a value whose first line stands at level `depth`. -/
def prettyAt (depth : Nat) : Json → Text
  | array [] => "[]".toList
  | array items => '[' :: prettyItems (depth + 1) items ++ lineBreak depth ++ [']']
  | object [] => ['\x7b', '\x7d']
  | object members => '\x7b' :: prettyMembers (depth + 1) members ++ lineBreak depth ++ ['\x7d']
  | scalar => scalarText scalar

/-- Items on lines of level `depth`. -/
def prettyItems (depth : Nat) : List Json → Text
  | [] => []
  | item :: [] => lineBreak depth ++ prettyAt depth item
  | item :: rest => lineBreak depth ++ prettyAt depth item ++ ',' :: prettyItems depth rest

/-- Members on lines of level `depth`. -/
def prettyMembers (depth : Nat) : List (Text × Json) → Text
  | [] => []
  | (name, value) :: [] => lineBreak depth ++ quote name ++ ": ".toList ++ prettyAt depth value
  | (name, value) :: rest =>
      lineBreak depth ++ quote name ++ ": ".toList ++ prettyAt depth value ++
        ',' :: prettyMembers depth rest

end

/-- The indented text. -/
def pretty (j : Json) : Text := prettyAt 0 j

end Json

end Pushdown
