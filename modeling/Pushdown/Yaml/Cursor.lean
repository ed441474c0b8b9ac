/-
**Places in a YAML text.**

YAML gives meaning to columns, so a text is read by a cursor that knows its line and column besides
the text that follows.

Main definitions:

* `Yaml.Cursor` — a place in a text;
* `Yaml.Cursor.advance`, `Yaml.Cursor.takeBreak?` — one character, or one line break, further;
* `Yaml.Gap` — the blanks and line breaks between two pieces of a scalar, and `Yaml.Gap.fold` what
  they stand for.
-/

import Pushdown.Text.Basic

set_option autoImplicit false

namespace Pushdown

namespace Yaml

/-! ### Characters -/

/-- A line break. -/
def isBreak (c : Char) : Bool :=
  c = '\n' || c = '\r' || c.toNat = 0x85 || c.toNat = 0x2028 || c.toNat = 0x2029

/-- A space or a tab. -/
def isSpaceOrTab (c : Char) : Bool := c = ' ' || c = '\t'

/-- Whether a word ends in front of a character or at the end of the text. -/
def endsWord : Option Char → Bool
  | none => true
  | some c => isSpaceOrTab c || isBreak c

/-- A character of the name of an anchor. -/
def isNameChar (c : Char) : Bool := c.isAlphanum || c = '_' || c = '-'

/-- A character that a YAML text may hold. -/
def isAllowed (c : Char) : Bool :=
  let n := c.toNat
  n = 0x9 || n = 0xA || n = 0xD || (0x20 ≤ n && n ≤ 0x7E) || n = 0x85 ||
    (0xA0 ≤ n && n ≤ 0xD7FF) || (0xE000 ≤ n && n ≤ 0xFFFD) || 0x10000 ≤ n

/-! ### Cursors -/

/-- A place in a text: what follows, the line, the column and the number of characters in front. -/
structure Cursor where
  rest : Text
  line : Nat
  column : Nat
  offset : Nat
  deriving Repr

namespace Cursor

/-- The front of a text. -/
def start (s : Text) : Cursor := ⟨s, 0, 0, 0⟩

/-- The next character. -/
def peek (c : Cursor) : Option Char := c.rest.head?

/-- A character further on. -/
def peekAt (c : Cursor) (n : Nat) : Option Char := c.rest[n]?

/-- Behind the next character, which is no line break. -/
def advance (c : Cursor) : Cursor :=
  { c with rest := c.rest.tail, column := c.column + 1, offset := c.offset + 1 }

/-- Behind some characters on the same line. -/
def advanceBy (c : Cursor) (n : Nat) : Cursor :=
  { c with rest := c.rest.drop n, column := c.column + n, offset := c.offset + n }

/-- On the next line, behind a break of some characters. -/
def nextLine (c : Cursor) (width : Nat) : Cursor :=
  { rest := c.rest.drop width, line := c.line + 1, column := 0, offset := c.offset + width }

/-- The line break at a place as text, and the place behind it. -/
def takeBreak? (c : Cursor) : Option (Text × Cursor) :=
  match c.rest with
  | '\r' :: '\n' :: _ => some (['\n'], c.nextLine 2)
  | x :: _ =>
      if isBreak x then
        some (if x.toNat = 0x2028 ∨ x.toNat = 0x2029 then [x] else ['\n'], c.nextLine 1)
      else none
  | [] => none

/-- Whether a class holds the next character. -/
def sees (c : Cursor) (isOne : Char → Bool) : Bool := (c.peek.map isOne).getD false

/-- Behind all characters of a class, which holds no line break. -/
def skipWhile (c : Cursor) (isOne : Char → Bool) : Cursor :=
  c.advanceBy (c.rest.takeWhile isOne).length

/-- Whether three equal signs stand as a word at the start of a line. -/
def seesMarker (c : Cursor) (sign : Char) : Bool :=
  c.column = 0 && c.rest.take 3 == [sign, sign, sign] && endsWord (c.peekAt 3)

/-- Whether a line with the mark of a document starts here. -/
def seesDocumentMark (c : Cursor) : Bool := c.seesMarker '-' || c.seesMarker '.'

end Cursor

/-! ### Gaps -/

/-- The blanks and line breaks between two pieces of a scalar. -/
structure Gap where
  /-- The blanks in front of the first break. -/
  blanks : Text
  /-- Whether there is a break. -/
  broken : Bool
  /-- The first break; nothing if it is escaped. -/
  first : Text
  /-- The further breaks. -/
  more : Text
  deriving Repr

namespace Gap

/-- Nothing between two pieces. -/
def none : Gap := ⟨[], false, [], []⟩

/-- A gap that starts with an escaped break. -/
def escaped : Gap := ⟨[], true, [], []⟩

/-- What a gap stands for: its blanks, or a blank for one break, or the breaks after the first. -/
def fold (g : Gap) : Text :=
  if !g.broken then g.blanks
  else if g.first.head? = some '\n' then (if g.more.isEmpty then [' '] else g.more)
  else g.first ++ g.more

/-- The gap with one more break. -/
def withBreak (g : Gap) (text : Text) : Gap :=
  if g.broken then { g with more := g.more ++ text }
  else ⟨[], true, text, []⟩

/-- The gap with one more blank; blanks behind a break do not count. -/
def withBlank (g : Gap) (c : Char) : Gap :=
  if g.broken then g else { g with blanks := g.blanks ++ [c] }

/-- The gap at a place, and the place behind it.  Behind a break, tabs may stand only from a column
on. -/
def read (tabsFrom : Nat) : Nat → Gap → Cursor → Option (Gap × Cursor)
  | 0, _, _ => Option.none
  | fuel + 1, g, c =>
      match c.takeBreak? with
      | some (text, c) => read tabsFrom fuel (g.withBreak text) c
      | Option.none =>
          match c.peek with
          | some x =>
              if isSpaceOrTab x then
                if x = '\t' && g.broken && c.column < tabsFrom then Option.none
                else read tabsFrom fuel (g.withBlank x) c.advance
              else some (g, c)
          | Option.none => some (g, c)

end Gap

end Yaml

end Pushdown
