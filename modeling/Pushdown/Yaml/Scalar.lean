/-
**Scalars of YAML.**

A scalar is plain, in single or double quotes, or a block of indented lines.  Line breaks in the
first three, and in a folded block, become blanks.

Main definitions:

* `Yaml.readQuoted` — a scalar in quotes;
* `Yaml.readPlain` — a plain scalar;
* `Yaml.readBlock` — a literal or folded block.
-/

import Pushdown.Yaml.Cursor

set_option autoImplicit false

namespace Pushdown

namespace Yaml

/-! ### Quotes -/

/-- The character that a single letter behind a backslash stands for. -/
def letterEscape? (c : Char) : Option Char :=
  if c = '0' then some (Char.ofNat 0)
  else if c = 'a' then some (Char.ofNat 7)
  else if c = 'b' then some (Char.ofNat 8)
  else if c = 't' ∨ c = '\t' then some '\t'
  else if c = 'n' then some '\n'
  else if c = 'v' then some (Char.ofNat 0xB)
  else if c = 'f' then some (Char.ofNat 0xC)
  else if c = 'r' then some '\r'
  else if c = 'e' then some (Char.ofNat 0x1B)
  else if c = ' ' ∨ c = '"' ∨ c = '/' ∨ c = '\\' then some c
  else if c = 'N' then some (Char.ofNat 0x85)
  else if c = '_' then some (Char.ofNat 0xA0)
  else if c = 'L' then some (Char.ofNat 0x2028)
  else if c = 'P' then some (Char.ofNat 0x2029)
  else none

/-- The number of hexadecimal digits behind a letter of an escape. -/
def escapeWidth (c : Char) : Nat :=
  if c = 'x' then 2 else if c = 'u' then 4 else if c = 'U' then 8 else 0

/-- The value of hexadecimal digits. -/
def hexNumber? : Nat → Text → Option Nat
  | n, [] => some n
  | n, c :: rest => (Text.hexValue? c).bind fun d => hexNumber? (n * 16 + d) rest

/-- The character of an escape behind its backslash, and the number of characters it takes. -/
def escape? : Text → Option (Char × Nat)
  | [] => none
  | c :: rest =>
      match letterEscape? c with
      | some x => some (x, 1)
      | none =>
          let width := escapeWidth c
          let digits := rest.take width
          if width = 0 ∨ digits.length < width then none
          else
            match hexNumber? 0 digits with
            | none => none
            | some n =>
                if (0xD800 ≤ n ∧ n ≤ 0xDFFF) ∨ 0x10FFFF < n then none
                else some (Char.ofNat n, 1 + width)

/-- The content of a scalar in quotes behind the opening one, in front of which `text` was read, and
the place behind the closing one. -/
def readQuoted (quote : Char) : Nat → Text → Cursor → Option (Text × Cursor)
  | 0, _, _ => none
  | fuel + 1, text, c =>
      if c.seesDocumentMark then none
      else
        match c.rest with
        | [] => none
        | x :: rest =>
            if x = quote then
              if quote = '\'' ∧ rest.head? = some '\'' then
                readQuoted quote fuel (text ++ [quote]) (c.advanceBy 2)
              else some (text, c.advance)
            else if isSpaceOrTab x || isBreak x then
              match Gap.read 0 (c.rest.length + 1) .none c with
              | some (gap, c) => readQuoted quote fuel (text ++ gap.fold) c
              | none => none
            else if x = '\\' ∧ quote = '"' then
              match c.advance.takeBreak? with
              | some (_, next) =>
                  match Gap.read 0 (c.rest.length + 1) .escaped next with
                  | some (gap, next) => readQuoted quote fuel (text ++ gap.fold) next
                  | none => none
              | none =>
                  match escape? rest with
                  | some (e, width) =>
                      readQuoted quote fuel (text ++ [e]) (c.advanceBy (1 + width))
                  | none => none
            else readQuoted quote fuel (text ++ [x]) c.advance

/-! ### Plain scalars -/

/-- The signs of flow collections. -/
def isFlowSign (c : Char) : Bool := c = ',' || c = '[' || c = ']' || c = '{' || c = '}'

/-- Whether a plain scalar ends in front of a character inside a word. -/
def endsPlain (inFlow : Bool) (x : Char) (next : Option Char) : Bool :=
  (x = ':' && endsWord next) || (inFlow && isFlowSign x)

/-- Whether a colon stands where it is neither part of a word nor behind a key. -/
def strayColon (inFlow : Bool) (x : Char) (next : Option Char) : Bool :=
  inFlow && x = ':' && (next.map fun n => isFlowSign n || n = '?').getD false

/-- The word of a plain scalar at a place, and the place behind it. -/
def readWord (inFlow : Bool) : Nat → Text → Cursor → Option (Text × Cursor)
  | 0, _, _ => none
  | fuel + 1, text, c =>
      match c.peek with
      | none => some (text, c)
      | some x =>
          if endsWord (some x) then some (text, c)
          else if strayColon inFlow x (c.peekAt 1) then none
          else if endsPlain inFlow x (c.peekAt 1) then some (text, c)
          else readWord inFlow fuel (text ++ [x]) c.advance

/-- A plain scalar in front of which `text` and a gap were read; the place behind it, and whether
the gap behind it holds a break.  Lines of a scalar outside flow collections are indented. -/
def readPlain (inFlow : Bool) (indent : Nat) :
    Nat → Text → Gap → Cursor → Option (Text × Bool × Cursor)
  | 0, _, _, _ => none
  | fuel + 1, text, gap, c =>
      if c.seesDocumentMark || c.peek = some '#' then some (text, gap.broken, c)
      else
        match readWord inFlow (c.rest.length + 1) [] c with
        | none => none
        | some (word, next) =>
            let text := if word.isEmpty then text else text ++ gap.fold ++ word
            let gap := if word.isEmpty then gap else .none
            if next.sees fun x => isSpaceOrTab x || isBreak x then
              match Gap.read indent (next.rest.length + 1) gap next with
              | none => none
              | some (gap, next) =>
                  if !inFlow && next.column < indent then some (text, gap.broken, next)
                  else readPlain inFlow indent fuel text gap next
            else some (text, gap.broken, next)

/-! ### Blocks -/

/-- What happens to the breaks at the end of a block. -/
inductive Chomping where
  | strip
  | clip
  | keep
  deriving DecidableEq, Repr

/-- The chomping that a sign stands for. -/
def chomping? (c : Option Char) : Option Chomping :=
  if c = some '+' then some .keep else if c = some '-' then some .strip else none

/-- The header of a block behind its sign: its chomping, its indentation if given, and the place on
the next line. -/
def readHeader (c : Cursor) : Option (Chomping × Nat × Cursor) :=
  let digit? (c : Cursor) : Option Nat :=
    (c.peek.filter Char.isDigit).map fun x => x.toNat - 48
  let front : Option (Chomping × Nat × Cursor) :=
    match chomping? c.peek with
    | some chomping =>
        match digit? c.advance with
        | some d => if d = 0 then none else some (chomping, d, c.advanceBy 2)
        | none => some (chomping, 0, c.advance)
    | none =>
        match digit? c with
        | some d =>
            if d = 0 then none
            else
              match chomping? c.advance.peek with
              | some chomping => some (chomping, d, c.advanceBy 2)
              | none => some (.clip, d, c.advance)
        | none => some (.clip, 0, c)
  match front with
  | none => none
  | some (chomping, increment, c) =>
      let c := c.skipWhile isSpaceOrTab
      let c := if c.peek = some '#' then c.skipWhile fun x => !isBreak x else c
      match c.takeBreak? with
      | some (_, c) => some (chomping, increment, c)
      | none => if c.rest.isEmpty then some (chomping, increment, c) else none

/-- The breaks in front of a line of a block, the greatest column reached and the place at the line.
An indentation of zero is not known yet. -/
def readBreaks (indent : Nat) : Nat → Text → Nat → Cursor → Option (Text × Nat × Cursor)
  | 0, _, _, _ => none
  | fuel + 1, breaks, deepest, c =>
      let spaces := (c.rest.takeWhile (· = ' ')).length
      let c := c.advanceBy (if indent = 0 then spaces else min spaces (indent - c.column))
      let deepest := max deepest c.column
      if c.peek = some '\t' ∧ (indent = 0 ∨ c.column < indent) then none
      else
        match c.takeBreak? with
        | some (text, c) => readBreaks indent fuel (breaks ++ text) deepest c
        | none => some (breaks, deepest, c)

/-- The lines of a block in front of which `text` was read; `lead` is the break in front of the
line, `breaks` the empty lines behind it, and `wasBlank` tells whether the line before starts with a
blank. -/
def readLines (isLiteral : Bool) (indent : Nat) :
    Nat → Text → Text → Text → Bool → Cursor → Option (Text × Text × Text × Cursor)
  | 0, _, _, _, _, _ => none
  | fuel + 1, text, lead, breaks, wasBlank, c =>
      if c.column = indent ∧ !c.rest.isEmpty then
        let isBlankLine := c.sees isSpaceOrTab
        let joint :=
          if !isLiteral && lead.head? = some '\n' && !wasBlank && !isBlankLine then
            if breaks.isEmpty then [' '] else breaks
          else lead ++ breaks
        let line := c.rest.takeWhile fun x => !isBreak x
        let behind := c.advanceBy line.length
        let (lead, next) := (behind.takeBreak?).getD ([], behind)
        match readBreaks indent (next.rest.length + 1) [] 0 next with
        | none => none
        | some (breaks, _, next) =>
            readLines isLiteral indent fuel (text ++ joint ++ line) lead breaks isBlankLine next
      else some (text, lead, breaks, c)

/-- A block behind its sign, inside collections of an indentation (one more than their column, zero
outside all), and the place behind it. -/
def readBlock (isLiteral : Bool) (outer : Nat) (c : Cursor) : Option (Text × Cursor) :=
  match readHeader c with
  | none => none
  | some (chomping, increment, c) =>
      let given := if increment = 0 then 0 else (outer - 1) + increment
      match readBreaks given (c.rest.length + 1) [] 0 c with
      | none => none
      | some (breaks, deepest, c) =>
          let indent := if given = 0 then max (max deepest outer) 1 else given
          match readLines isLiteral indent (c.rest.length + 1) [] [] breaks false c with
          | none => none
          | some (text, lead, breaks, c) =>
              let tail :=
                match chomping with
                | .strip => []
                | .clip => lead
                | .keep => lead ++ breaks
              some (text ++ tail, c)

end Yaml

end Pushdown
