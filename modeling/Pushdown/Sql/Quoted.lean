/-
**Quoted text of SQL.**

Names and literals are written in their quotes.  A quote inside a text is written twice, unless the
text already has it doubled or behind a backslash: both notations of an inner quote are kept as they
are.

Main definitions:

* `Sql.doubleQuotes` — a text with its lone quotes doubled;
* `Sql.StringStyle.render` — a string literal in its notation;
* `Sql.Ident` and `Sql.Ident.render` — a name and its quote.
-/

import Pushdown.Sql.Keyword
import Pushdown.Sql.Token

set_option autoImplicit false

namespace Pushdown

namespace Sql

/-! ### Quotes inside quotes -/

/-- The text with lone quotes doubled; `escaped` tells whether a backslash stands in front. -/
def doubleQuotesFrom (quote : Char) : Bool → Text → Text
  | _, [] => []
  | escaped, [c] => if c = quote ∧ !escaped then [c, c] else [c]
  | escaped, c :: d :: rest =>
      if c = quote then
        if escaped then c :: doubleQuotesFrom quote true (d :: rest)
        else if d = quote then c :: d :: doubleQuotesFrom quote (c = '\\') rest
        else c :: c :: doubleQuotesFrom quote (c = '\\') (d :: rest)
      else c :: doubleQuotesFrom quote (c = '\\') (d :: rest)

/-- The text with lone quotes doubled. -/
def doubleQuotes (quote : Char) (s : Text) : Text := doubleQuotesFrom quote false s

/-! ### String literals -/

/-- A character of a string with backslash escapes. -/
def backslashed (c : Char) : Text :=
  if c = '\'' then "\\'".toList
  else if c = '\\' then "\\\\".toList
  else if c = '\n' then "\\n".toList
  else if c = '\t' then "\\t".toList
  else if c = '\r' then "\\r".toList
  else [c]

/-- At least `width` hexadecimal digits of a number, in upper case. -/
def hexDigits : Nat → Nat → Text
  | 0, _ => []
  | width + 1, n => hexDigits width (n / 16) ++ [Text.hexDigit (n % 16)]

/-- A character of a string with numbered characters. -/
def numbered (c : Char) : Text :=
  if c = '\'' then "''".toList
  else if c = '\\' then "\\\\".toList
  else if c.toNat < 0x80 then [c]
  else if c.toNat ≤ 0xFFFF then '\\' :: hexDigits 4 c.toNat
  else '\\' :: '+' :: hexDigits 6 c.toNat

/-- A text between two others. -/
def between (left right : Text) (s : Text) : Text := left ++ s ++ right

/-- The marks of a notation around a content. -/
def StringStyle.enclose : StringStyle → Text → Text
  | single => between ['\''] ['\'']
  | double => between ['"'] ['"']
  | national => between "N'".toList ['\'']
  | escaped => between "E'".toList ['\'']
  | unicode => between "U&'".toList ['\'']
  | dollar tag => between ('$' :: tag ++ ['$']) ('$' :: tag ++ ['$'])
  | hex => between "X'".toList ['\'']
  | byteSingle => between "B'".toList ['\'']
  | byteDouble => between "B\"".toList ['"']
  | rawSingle => between "R'".toList ['\'']
  | rawDouble => between "R\"".toList ['"']
  | rawTripleSingle => between "R'''".toList "'''".toList
  | rawTripleDouble => between "R\"\"\"".toList "\"\"\"".toList

/-- A content as it is spelled inside the marks of its notation. -/
def StringStyle.spell : StringStyle → Text → Text
  | single, content => doubleQuotes '\'' content
  | double, content => doubleQuotes '"' content
  | escaped, content => content.flatMap backslashed
  | unicode, content => content.flatMap numbered
  | _, content => content

/-- A string literal in its notation. -/
def StringStyle.render (style : StringStyle) (content : Text) : Text :=
  style.enclose (style.spell content)

/-! ### Names -/

/-- A name and the quote it stands in. -/
structure Ident where
  value : Text
  quote : Option Char
  deriving DecidableEq, Repr

namespace Ident

/-- A name in its quotes. -/
def render (i : Ident) : Text :=
  match i.quote with
  | none => i.value
  | some quote =>
      if quote = '[' then '[' :: i.value ++ [']']
      else quote :: doubleQuotes quote i.value ++ [quote]

/-- A name in capital letters, or nothing if it stands in quotes and so is no keyword. -/
def keyword? (i : Ident) : Option Text :=
  if i.quote.isNone then some (Keyword.capitals i.value) else none

end Ident

end Sql

end Pushdown
