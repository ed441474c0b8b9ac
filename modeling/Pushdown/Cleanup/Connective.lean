/-
**Dangling connectives.**

A `WHERE` or `AND` that no longer connects anything is dropped: an `AND` at the front, behind an
opening parenthesis, a `WHERE` or another `AND`; a `WHERE` or `AND` at the end, in front of a
closing parenthesis or of a word that ends the clause.  Quoted runs are neither inspected nor
altered.

Main definitions:

* `Cleanup.dropDangling?`, `Cleanup.trimEnd` — the connectives at the end of what was kept so far;
* `Cleanup.step` — what is kept after one more segment;
* `Cleanup.trimConnectives` — the text without dangling connectives.
-/

import Pushdown.Cleanup.Segment

set_option autoImplicit false

namespace Pushdown

namespace Cleanup

/-- The word that starts a condition. -/
def whereWord : Text := "WHERE".toList

/-- The word between conditions. -/
def andWord : Text := "AND".toList

/-- The words that end a condition. -/
def terminators : List Text :=
  ["ORDER".toList, "LIMIT".toList, "OFFSET".toList, "GROUP".toList, "HAVING".toList,
    "UNION".toList]

/-- Whether a segment is `AND`. -/
def isAnd (s : Segment) : Bool := s.isKeyword andWord

/-- Whether a segment is `WHERE` or `AND`. -/
def isConnective (s : Segment) : Bool := s.isKeyword whereWord || s.isKeyword andWord

/-- Whether a segment ends a condition. -/
def isTerminator (s : Segment) : Bool := terminators.any fun word => s.isKeyword word

/-- What is left of segments, given last first, without the dangling ones at their end and the
blanks behind those; nothing if none dangles there. -/
def dropDangling? (dangles : Segment → Bool) : List Segment → Option (List Segment)
  | [] => none
  | s :: rest =>
      if s.isSpace then dropDangling? dangles rest
      else if dangles s then some ((dropDangling? dangles rest).getD rest)
      else none

/-- The segments, given last first, without dangling ones at their end. -/
def trimEnd (dangles : Segment → Bool) (kept : List Segment) : List Segment :=
  (dropDangling? dangles kept).getD kept

/-- The last segment that is no blank, of segments given last first. -/
def lastSignificant? (kept : List Segment) : Option Segment := kept.find? fun s => !s.isSpace

/-- Whether an `AND` behind the given segment connects nothing. -/
def refusesAnd : Option Segment → Bool
  | none => true
  | some s => s = .paren '(' || s.isKeyword whereWord

/-- The kept segments, last first, after one more segment. -/
def step (kept : List Segment) (s : Segment) : List Segment :=
  if s.isSpace then
    match kept with
    | [] => []
    | last :: _ => if last.isSpace then kept else s :: kept
  else if isAnd s then
    -- Of several `AND` in a row only the last one may stay.
    let kept := trimEnd isAnd kept
    if refusesAnd (lastSignificant? kept) then kept else s :: kept
  else if isTerminator s || s = .paren ')' then s :: trimEnd isConnective kept
  else s :: kept

/-- The segments that are kept, in order. -/
def keptSegments (segments : List Segment) : List Segment :=
  (trimEnd isConnective (segments.foldl step [])).reverse

/-- The text without dangling connectives and without blanks at its ends. -/
def trimConnectives (sql : Text) : Text :=
  Text.trim ((keptSegments (Segment.scan sql)).flatMap Segment.text)

end Cleanup

end Pushdown
