/-
**Segments of SQL text.**

For the cleanup of SQL text it is enough to tell four kinds of segments apart: runs of blanks,
quoted runs, single parentheses, and words, which are everything else.  A quoted run starts with one
of the three quotes and ends with the next one of the same kind that is not doubled, or with the
text.

Main definitions:

* `Segment` — a segment with its text;
* `Segment.scan` — the segments of a text.

Main results:

* `Segment.text_ne_nil_of_first` — the first segment is not empty, so every step of the scan makes
  progress.
-/

import Pushdown.Text.Blank

set_option autoImplicit false

namespace Pushdown

/-- A piece of SQL text. -/
inductive Segment where
  /-- A run of blanks. -/
  | space (s : Text)
  /-- A quoted run with its quotes. -/
  | quoted (s : Text)
  /-- A parenthesis. -/
  | paren (c : Char)
  /-- A run of other characters. -/
  | word (s : Text)
  deriving DecidableEq, Repr

namespace Segment

/-- The characters of a segment. -/
def text : Segment → Text
  | space s => s
  | quoted s => s
  | paren c => [c]
  | word s => s

/-- The three quotes. -/
def isQuote (c : Char) : Bool := c = '\'' || c = '"' || c = '\x60'

/-- The two parentheses. -/
def isParen (c : Char) : Bool := c = '(' || c = ')'

/-- A character inside a word. -/
def isWordPart (c : Char) : Bool := !Text.isBlank c && !isQuote c && !isParen c

/-- The rest of a run behind its opening quote, up to and with its closing quote. -/
def quotedRun (quote : Char) : Text → Text
  | [] => []
  | [c] => [c]
  | c :: d :: rest =>
      if c = quote then
        if d = quote then c :: d :: quotedRun quote rest else [c]
      else c :: quotedRun quote (d :: rest)

/-- The segment that starts with `c`. -/
def first (c : Char) (rest : Text) : Segment :=
  if Text.isBlank c then space (c :: rest.takeWhile Text.isBlank)
  else if isQuote c then quoted (c :: quotedRun c rest)
  else if isParen c then paren c
  else word (c :: rest.takeWhile isWordPart)

/-- The segments of a text of which `skip` characters are already taken. -/
def scanFrom : Nat → Text → List Segment
  | _, [] => []
  | skip + 1, _ :: rest => scanFrom skip rest
  | 0, c :: rest => first c rest :: scanFrom ((first c rest).text.length - 1) rest

/-- The segments of a text in order. -/
def scan (s : Text) : List Segment := scanFrom 0 s

theorem text_ne_nil_of_first (c : Char) (rest : Text) : (first c rest).text ≠ [] := by
  unfold first
  split
  · simp [text]
  · split
    · simp [text]
    · split <;> simp [text]

/-- Whether a segment is a run of blanks. -/
def isSpace : Segment → Bool
  | space _ => true
  | _ => false

/-- Whether a segment is a given word in any case. -/
def isKeyword (keyword : Text) : Segment → Bool
  | word s => Text.eqIgnoreCase s keyword
  | _ => false

end Segment

end Pushdown
