/-
**Empty groups.**

A pair of parentheses with nothing but blanks inside is no condition.  Behind `AND` it is removed
together with the `AND`; behind `WHERE` it is removed and the `WHERE` stays.  Each pass works on the
stretches between quoted runs, and passes are repeated until one changes nothing.

Main definitions:

* `Cleanup.groupWidth?` — the extent of a word with an empty group behind it;
* `Cleanup.replaceGroups` — one replacement pass over a stretch;
* `Cleanup.stripPass`, `Cleanup.stripGroups` — one pass over a text, and all of them;
* `Cleanup.sanitize` — connectives, groups, and connectives again if a group was removed.
-/

import Pushdown.Cleanup.Connective
import Pushdown.Text.Letter

set_option autoImplicit false

namespace Pushdown

namespace Cleanup

/-- The text behind a word in any case. -/
def behindWord? : Text → Text → Option Text
  | [], s => some s
  | _ :: _, [] => none
  | w :: word, c :: rest =>
      if w = c.toUpper then behindWord? word rest else none

/-- The text behind an empty group and the blanks in front of it. -/
def behindGroup? (s : Text) : Option Text :=
  match Text.trimLeft s with
  | '(' :: rest =>
      match Text.trimLeft rest with
      | ')' :: rest => some rest
      | _ => none
  | _ => none

/-- The number of characters of an upper case word with an empty group behind it, if a text starts
with them. -/
def groupWidth? (word : Text) (s : Text) : Option Nat :=
  match behindWord? word s with
  | none => none
  | some rest => (behindGroup? rest).map fun rest => s.length - rest.length

/-- Replaces words with empty groups, from the left.  `inWord` tells whether a word character stands
in front, where no word starts; `skip` characters of a match are still to be passed over. -/
def replaceFrom (word replacement : Text) : Bool → Nat → Text → Text
  | _, _, [] => []
  | _, skip + 1, c :: rest => replaceFrom word replacement (Text.isWordChar c) skip rest
  -- A match ends in a parenthesis, and the next word may start right behind it.
  | inWord, 0, c :: rest =>
      match if inWord then none else groupWidth? word (c :: rest) with
      | some width =>
          replacement ++ replaceFrom word replacement (Text.isWordChar c) (width - 1) rest
      | none => c :: replaceFrom word replacement (Text.isWordChar c) 0 rest

/-- One pass over a stretch without quotes: `AND` goes with its group, `WHERE` stays. -/
def replaceGroups (stretch : Text) : Text :=
  replaceFrom whereWord whereWord false 0 (replaceFrom andWord [] false 0 stretch)

/-- One pass over segments: the stretch in front of the first quoted run, as it is, and the text
from that run on, with its stretches replaced. -/
def stripSegments : List Segment → Text × Text
  | [] => ([], [])
  | .quoted s :: rest =>
      let (stretch, done) := stripSegments rest
      ([], s ++ replaceGroups stretch ++ done)
  | s :: rest =>
      let (stretch, done) := stripSegments rest
      (s.text ++ stretch, done)

/-- One pass over a text. -/
def stripPass (sql : Text) : Text :=
  let (stretch, done) := stripSegments (Segment.scan sql)
  replaceGroups stretch ++ done

/-- Passes until one changes nothing; `fuel` bounds their number. -/
def stripFrom : Nat → Text → Text
  | 0, sql => sql
  | fuel + 1, sql => if stripPass sql = sql then sql else stripFrom fuel (stripPass sql)

/-- The text without empty groups behind `AND` and `WHERE`.  Every pass that changes the text makes
it shorter. -/
def stripGroups (sql : Text) : Text := stripFrom (sql.length + 1) sql

/-- Both cleanups; connectives once more if a group was removed. -/
def sanitize (sql : Text) : Text :=
  let trimmed := trimConnectives sql
  let stripped := stripGroups trimmed
  if stripped = trimmed then trimmed else trimConnectives stripped

end Cleanup

end Pushdown
