/-
**Paths of absolute URLs.**

The path of a hierarchical URL is a list of segments.  A segment `.` stands for no step and `..`
removes the segment before it, also when the dots are percent-encoded; a path that ends in one of
them ends in a slash.  A drive letter, which is a letter and a colon or a bar, is not removed: under
any scheme and at any depth `..` leaves it where it is.  Only a path to a file also writes it in one
way, with a colon, and only as its first segment.  Characters that may not stand in a path are
percent-encoded.

Main definitions:

* `Url.encodeWith` — percent-encoding of control characters, characters outside ASCII and a
  further class;
* `Url.isDriveLetter` — drive letters;
* `Url.Path.removeLast` — what `..` leaves of the segments before it;
* `Url.Path.normalize` — the written form of the segments of a path.
-/

import Pushdown.Codec.Percent

set_option autoImplicit false

namespace Pushdown

namespace Url

/-- Percent-encodes control characters, characters outside ASCII and those of a further class. -/
def encodeWith (also : Char → Bool) (s : Text) : Text :=
  s.flatMap fun c =>
    if c.toNat < 0x20 || 0x7E < c.toNat || also c then Percent.escapeChar c else [c]

/-- Further characters encoded in a fragment. -/
def inFragmentSet (c : Char) : Bool := c = ' ' || c = '"' || c = '<' || c = '>' || c = '\x60'

/-- Further characters encoded in a path. -/
def inPathSet (c : Char) : Bool :=
  inFragmentSet c || c = '#' || c = '?' || c = '\x7b' || c = '\x7d'

/-- Further characters encoded in a query. -/
def inQuerySet (c : Char) : Bool := c = ' ' || c = '"' || c = '#' || c = '<' || c = '>'

/-- Whether a text is a drive letter: a letter with a colon or a bar behind it. -/
def isDriveLetter : Text → Bool
  | [c, d] => c.isAlpha && (d = ':' || d = '|')
  | _ => false

namespace Path

/-- A segment with `%2e` read as a point, as far as that decides whether it is made of points. -/
def unescapePoints : Text → Text
  | '%' :: '2' :: 'e' :: rest => '.' :: unescapePoints rest
  | '%' :: '2' :: 'E' :: rest => '.' :: unescapePoints rest
  | c :: rest => c :: unescapePoints rest
  | [] => []

/-- What `..` leaves of the segments before it, which are listed last first: all but the last one,
and that one as well if it is a drive letter. -/
def removeLast : List Text → List Text
  | [] => []
  | last :: before =>
      -- A backslash that no slash was made of ends the drive letter all the same.
      if isDriveLetter (last.takeWhile fun c => c != '\\') then last :: before else before

/-- Adds the segments of a path, in order, to those before them, which are listed last first.  In a
path to a file the sign `|` behind a drive letter in front becomes a colon. -/
def resolve (isFile : Bool) : List Text → List Text → List Text
  | done, [] => done
  | done, segment :: rest =>
      let points := unescapePoints segment
      if points = ['.', '.'] then
        let shorter := removeLast done
        resolve isFile (if rest.isEmpty then [] :: shorter else shorter) rest
      else if points = ['.'] then
        resolve isFile (if rest.isEmpty then [] :: done else done) rest
      else
        let written := encodeWith inPathSet segment
        let written :=
          if isFile && done.isEmpty && isDriveLetter written then
            written.take 1 ++ [':']
          else written
        resolve isFile (written :: done) rest

/-- A path as written: every segment behind a slash.  A path to a file starts with one slash. -/
def normalize (isFile : Bool) (isSlash : Char → Bool) (path : Text) : Text :=
  let resolved := (resolve isFile [] (Text.splitWhere isSlash path)).reverse
  let kept :=
    if isFile then
      match resolved.dropWhile List.isEmpty with
      | [] => [[]]
      | remaining => remaining
    else resolved
  kept.flatMap fun segment => '/' :: segment

/-- A drive letter in the middle of a path stays, and an empty segment may follow it. -/
example : normalize false (fun c => c = '/') "a/C:/..//x".toList = "/a/C://x".toList := by decide

end Path

end Url

end Pushdown
