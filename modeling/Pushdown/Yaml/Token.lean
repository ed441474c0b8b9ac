/-
**Tokens of YAML.**

Indentation opens and closes collections, so the scan turns it into tokens.  A key is recognized
only at the colon behind it; the scan therefore leaves a mark wherever a key may start, and a mark
becomes a key once its colon is found.

Main definitions:

* `Yaml.Token` — a token;
* `Yaml.Scan` — the state of the scan;
* `Yaml.Scan.step` — the scan of one token;
* `Yaml.tokens?` — the tokens of a text.
-/

import Pushdown.Yaml.Scalar

set_option autoImplicit false

namespace Pushdown

namespace Yaml

/-- A token. -/
inductive Token where
  | versionDirective (major minor : Text)
  | tagDirective (handle lead : Text)
  | documentStart
  | documentEnd
  | blockSequenceStart
  | blockMappingStart
  | blockEnd
  | flowSequenceStart
  | flowSequenceEnd
  | flowMappingStart
  | flowMappingEnd
  | blockEntry
  | flowEntry
  | key
  | value
  | reference (name : Text)
  | anchor (name : Text)
  | tag (handle suffix : Text)
  | scalar (isPlain : Bool) (text : Text)
  /-- A place where a key may start. -/
  | mark (number : Nat)
  deriving DecidableEq, Repr

/-- A place where a key may start: its mark, whether a key has to start there, and where it is. -/
structure Candidate where
  number : Nat
  isRequired : Bool
  line : Nat
  column : Nat
  offset : Nat

/-- The state of the scan. -/
structure Scan where
  cursor : Cursor
  /-- The tokens so far, last first. -/
  tokens : List Token
  /-- The marks that have become keys, and whether the key opens a mapping. -/
  keys : List (Nat × Bool)
  /-- The number of marks so far. -/
  marks : Nat
  /-- The columns of the open block collections, each one more than its column, innermost first. -/
  indents : List Nat
  /-- The candidate of the block context or of the innermost flow collection. -/
  candidate : Option Candidate
  /-- The candidates around the innermost flow collection. -/
  outer : List (Option Candidate)
  /-- Whether a key may start at the cursor. -/
  allowsKey : Bool

namespace Scan

/-- The scan at the front of a text. -/
def start (s : Text) : Scan where
  cursor := .start s
  tokens := []
  keys := []
  marks := 0
  indents := []
  candidate := none
  outer := []
  allowsKey := true

/-- Whether the cursor is inside a flow collection. -/
def inFlow (s : Scan) : Bool := !s.outer.isEmpty

/-- One more than the column of the innermost block collection, or zero. -/
def indent (s : Scan) : Nat := s.indents.headD 0

/-- The scan with one more token. -/
def emit (s : Scan) (t : Token) : Scan := { s with tokens := t :: s.tokens }

/-- The scan with the cursor some characters further. -/
def skip (s : Scan) (n : Nat) : Scan := { s with cursor := s.cursor.advanceBy n }

/-- The scan that allows a key at the cursor, or does not. -/
def allowing (s : Scan) (allows : Bool) : Scan := { s with allowsKey := allows }

/-! ### Keys and indentation -/

/-- Gives up the candidate; nothing if a key had to start there. -/
def dropCandidate? (s : Scan) : Option Scan :=
  match s.candidate with
  | some c => if c.isRequired then none else some { s with candidate := none }
  | none => some s

/-- Marks the cursor as a place where a key may start, if it is allowed there. -/
def markKey? (s : Scan) : Option Scan :=
  if s.allowsKey then
    match s.dropCandidate? with
    | none => none
    | some s =>
        let c := s.cursor
        let isRequired := !s.inFlow && s.indent = c.column + 1
        some { s.emit (.mark s.marks) with
          marks := s.marks + 1
          candidate := some ⟨s.marks, isRequired, c.line, c.column, c.offset⟩ }
  else some s

/-- Whether a key cannot start at a candidate any more: it is on a line before, or too far back. -/
def isStale (c : Cursor) (k : Candidate) : Bool := k.line < c.line || k.offset + 1024 < c.offset

/-- A candidate, if a key may still start there; nothing at all if a key had to. -/
def refresh? (c : Cursor) : Option Candidate → Option (Option Candidate)
  | none => some none
  | some k => if isStale c k then (if k.isRequired then none else some none) else some (some k)

/-- The scan without candidates where no key can start any more. -/
def refreshAll? (s : Scan) : Option Scan :=
  match refresh? s.cursor s.candidate, s.outer.mapM (refresh? s.cursor) with
  | some candidate, some outer => some { s with candidate := candidate, outer := outer }
  | _, _ => none

/-- Closes the block collections that start right of a column, given as one more than it. -/
def close (bound : Nat) : List Nat → List Token → List Nat × List Token
  | [], tokens => ([], tokens)
  | i :: rest, tokens =>
      if bound < i then close bound rest (.blockEnd :: tokens) else (i :: rest, tokens)

/-- Closes the block collections that start right of a column, given as one more than it. -/
def unindent (s : Scan) (bound : Nat) : Scan :=
  if s.inFlow then s
  else
    let closed := close bound s.indents s.tokens
    { s with indents := closed.1, tokens := closed.2 }

/-- Whether a collection at a column is deeper than those that are open. -/
def isDeeper (s : Scan) (column : Nat) : Bool := !s.inFlow && s.indent < column + 1

/-- Opens a block collection at the cursor, if it is deeper than those that are open. -/
def openBlock (s : Scan) (t : Token) : Scan :=
  let column := s.cursor.column
  if s.isDeeper column then { s.emit t with indents := (column + 1) :: s.indents } else s

/-! ### Blanks, directives and tags -/

/-- Behind blanks, comments and line breaks. -/
def skipBlanks : Nat → Scan → Scan
  | 0, s => s
  | fuel + 1, s =>
      let blank (c : Char) : Bool := c = ' ' || (c = '\t' && (s.inFlow || !s.allowsKey))
      let c := s.cursor.skipWhile blank
      let c := if c.peek = some '#' then c.skipWhile fun x => !isBreak x else c
      match c.takeBreak? with
      | some (_, c) => skipBlanks fuel { s with cursor := c, allowsKey := s.allowsKey || !s.inFlow }
      | none => { s with cursor := c }

/-- A character of a tag outside the verbatim form. -/
def isTagChar (c : Char) : Bool := isNameChar c || ";/?:@&=+$.%!~*'()".toList.contains c

/-- The octets of percent escapes as characters, if each stands for one. -/
def unescapeTag : Text → Option Text
  | [] => some []
  | c :: rest =>
      if c = '%' then
        match rest with
        | a :: b :: rest =>
            match Text.hexValue? a, Text.hexValue? b with
            | some x, some y =>
                if 16 * x + y < 128 then
                  (unescapeTag rest).map fun r => Char.ofNat (16 * x + y) :: r
                else none
            | _, _ => none
        | _ => none
      else (unescapeTag rest).map fun r => c :: r

/-- The handle of a tag at its front: a sign, or letters between two. -/
def tagHandle (s : Text) : Text :=
  match s with
  | '!' :: rest =>
      let name := rest.takeWhile isNameChar
      if (rest.drop name.length).head? = some '!' then '!' :: name ++ ['!'] else ['!']
  | _ => []

/-- A tag at a cursor, and the number of characters it takes. -/
def readTag? (c : Cursor) : Option (Token × Nat) :=
  match c.rest with
  | '!' :: '<' :: rest =>
      let text := rest.takeWhile fun x => isTagChar x || x = ',' || x = '[' || x = ']'
      match rest.drop text.length, unescapeTag text with
      | '>' :: _, some suffix =>
          if text.isEmpty then none else some (.tag [] suffix, text.length + 3)
      | _, _ => none
  | rest =>
      let handle := tagHandle rest
      let text := (rest.drop handle.length).takeWhile isTagChar
      match unescapeTag text with
      | none => none
      | some suffix =>
          if handle.length = 1 then
            some (if text.isEmpty then .tag [] ['!'] else .tag ['!'] suffix, 1 + text.length)
          else if text.isEmpty then none
          else some (.tag handle suffix, handle.length + text.length)

/-- The rest of the line behind a directive, if it is blank or a comment. -/
def endOfLine? (c : Cursor) : Option Cursor :=
  let c := c.skipWhile isSpaceOrTab
  let c := if c.peek = some '#' then c.skipWhile fun x => !isBreak x else c
  match c.takeBreak? with
  | some (_, c) => some c
  | none => if c.rest.isEmpty then some c else none

/-- The version of a directive behind its word. -/
def readVersion? (c : Cursor) : Option (Token × Cursor) :=
  let c := c.skipWhile isSpaceOrTab
  let major := c.rest.takeWhile Char.isDigit
  let c := c.advanceBy major.length
  if major.isEmpty ∨ c.peek ≠ some '.' then none
  else
    let c := c.advance
    let minor := c.rest.takeWhile Char.isDigit
    if minor.isEmpty then none
    else some (.versionDirective major minor, c.advanceBy minor.length)

/-- The handle and the lead of a directive behind its word. -/
def readTagDirective? (c : Cursor) : Option (Token × Cursor) :=
  let c := c.skipWhile isSpaceOrTab
  let handle := tagHandle c.rest
  let c := c.advanceBy handle.length
  if handle.isEmpty ∨ !c.sees isSpaceOrTab then none
  else
    let c := c.skipWhile isSpaceOrTab
    let lead := c.rest.takeWhile fun x => isTagChar x || x = ',' || x = '[' || x = ']'
    let c := c.advanceBy lead.length
    match unescapeTag lead with
    | none => none
    | some text =>
        if lead.isEmpty ∨ !endsWord c.peek then none else some (.tagDirective handle text, c)

/-- A directive at a cursor behind its sign, and the place on the next line. -/
def readDirective? (c : Cursor) : Option (Token × Cursor) :=
  let name := c.rest.takeWhile isNameChar
  let c := c.advanceBy name.length
  if !endsWord c.peek then none
  else
    let read :=
      if name = "YAML".toList then readVersion? c
      else if name = "TAG".toList then readTagDirective? c
      else none
    match read with
    | none => none
    | some (token, c) => (endOfLine? c).map fun c => (token, c)

/-! ### Tokens -/

/-- The scan behind a sign that starts a flow collection. -/
def openFlow? (s : Scan) (t : Token) : Option Scan :=
  s.markKey?.map fun s =>
    { (s.emit t).skip 1 with candidate := none, outer := s.candidate :: s.outer, allowsKey := true }

/-- The scan behind a sign that ends a flow collection. -/
def closeFlow? (s : Scan) (t : Token) : Option Scan :=
  s.dropCandidate?.map fun s =>
    let s := (s.emit t).skip 1 |>.allowing false
    match s.outer with
    | [] => s
    | candidate :: outer => { s with candidate := candidate, outer := outer }

/-- The scan behind the sign of an element of a block sequence. -/
def blockEntry? (s : Scan) : Option Scan :=
  if !s.inFlow && !s.allowsKey then none
  else
    ((s.openBlock .blockSequenceStart).dropCandidate?).map fun s =>
      ((s.emit .blockEntry).skip 1).allowing true

/-- The scan behind the sign in front of a key. -/
def key? (s : Scan) : Option Scan :=
  if !s.inFlow && !s.allowsKey then none
  else
    ((s.openBlock .blockMappingStart).dropCandidate?).map fun s =>
      ((s.emit .key).skip 1).allowing (!s.inFlow)

/-- The scan behind the colon of a value. -/
def value? (s : Scan) : Option Scan :=
  match s.candidate with
  | some k =>
      let opens := s.isDeeper k.column
      let s := { s with
        keys := (k.number, opens) :: s.keys
        indents := if opens then (k.column + 1) :: s.indents else s.indents
        candidate := none }
      some (((s.emit .value).skip 1).allowing false)
  | none =>
      if !s.inFlow && !s.allowsKey then none
      else
        let s := s.openBlock .blockMappingStart
        some (((s.emit .value).skip 1).allowing (!s.inFlow))

/-- The scan behind the name of an anchor or alias. -/
def anchor? (s : Scan) (token : Text → Token) : Option Scan :=
  s.markKey?.bind fun s =>
    let c := s.cursor.advance
    let name := c.rest.takeWhile isNameChar
    let c := c.advanceBy name.length
    let ends := endsWord c.peek || c.sees fun x => "?:,]\x7d%@\x60".toList.contains x
    if name.isEmpty || !ends then none
    else some { s.emit (token name) with cursor := c, allowsKey := false }

/-- The scan behind a tag. -/
def tag? (s : Scan) : Option Scan :=
  s.markKey?.bind fun s =>
    match readTag? s.cursor with
    | none => none
    | some (token, width) =>
        let s := ((s.emit token).skip width).allowing false
        if endsWord s.cursor.peek || (s.inFlow && s.cursor.peek = some ',') then some s else none

/-- The scan behind a scalar in quotes. -/
def quoted? (s : Scan) (quote : Char) : Option Scan :=
  s.markKey?.bind fun s =>
    (readQuoted quote (s.cursor.rest.length + 1) [] s.cursor.advance).map fun r =>
      { s.emit (.scalar false r.1) with cursor := r.2, allowsKey := false }

/-- The scan behind a plain scalar. -/
def plain? (s : Scan) : Option Scan :=
  s.markKey?.bind fun s =>
    (readPlain s.inFlow s.indent (s.cursor.rest.length + 1) [] .none s.cursor).map fun r =>
      { s.emit (.scalar true r.1) with cursor := r.2.2, allowsKey := r.2.1 }

/-- The scan behind a block scalar. -/
def block? (s : Scan) (isLiteral : Bool) : Option Scan :=
  s.dropCandidate?.bind fun s =>
    (readBlock isLiteral s.indent s.cursor.advance).map fun r =>
      { s.emit (.scalar false r.1) with cursor := r.2, allowsKey := true }

/-- The scan behind the mark or directive of a document, outside all collections. -/
def documentToken? (s : Scan) (t : Token) (width : Nat) : Option Scan :=
  (s.unindent 0).dropCandidate?.map fun s => ((s.emit t).skip width).allowing false

/-- The scan behind a directive. -/
def directive? (s : Scan) : Option Scan :=
  (s.unindent 0).dropCandidate?.bind fun s =>
    (readDirective? s.cursor.advance).map fun r =>
      { s.emit r.1 with cursor := r.2, allowsKey := false }

/-- Whether a plain scalar may start with a character. -/
def startsPlain (inFlow : Bool) (x : Char) (next : Option Char) : Bool :=
  !(endsWord (some x) || "-?:,[]\x7b\x7d#&*!|>'\"%@\x60".toList.contains x) ||
    (x = '-' && !(next.map isSpaceOrTab).getD false) ||
    (!inFlow && (x = '?' || x = ':') && !endsWord next)

/-- The scan behind the token that starts with a character. -/
def step (s : Scan) (x : Char) : Option Scan :=
  let c := s.cursor
  let spaced := endsWord (c.peekAt 1)
  if c.column = 0 && x = '%' then s.directive?
  else if c.seesMarker '-' then s.documentToken? .documentStart 3
  else if c.seesMarker '.' then s.documentToken? .documentEnd 3
  else if x = '[' then s.openFlow? .flowSequenceStart
  else if x = '{' then s.openFlow? .flowMappingStart
  else if x = ']' then s.closeFlow? .flowSequenceEnd
  else if x = '}' then s.closeFlow? .flowMappingEnd
  else if x = ',' then
    s.dropCandidate?.map fun s => ((s.emit .flowEntry).skip 1).allowing true
  else if x = '-' && spaced then s.blockEntry?
  else if x = '?' && (s.inFlow || spaced) then s.key?
  else if x = ':' && (s.inFlow || spaced) then s.value?
  else if x = '*' then s.anchor? .reference
  else if x = '&' then s.anchor? .anchor
  else if x = '!' then s.tag?
  else if x = '|' && !s.inFlow then s.block? true
  else if x = '>' && !s.inFlow then s.block? false
  else if x = '\'' || x = '"' then s.quoted? x
  else if startsPlain s.inFlow x (c.peekAt 1) then s.plain?
  else none

/-- The scan of the whole text; there are at most as many tokens as there is fuel. -/
def run : Nat → Scan → Option Scan
  | 0, _ => none
  | fuel + 1, s =>
      match (skipBlanks (s.cursor.rest.length + 1) s).refreshAll? with
      | none => none
      | some s =>
          match s.cursor.peek with
          | none => (s.unindent 0).dropCandidate?
          | some x =>
              match (s.unindent (s.cursor.column + 1)).step x with
              | none => none
              | some s => run fuel s

/-- A mark as the tokens it has become. -/
def expand (keys : List (Nat × Bool)) : Token → List Token
  | .mark number =>
      match keys.find? fun k => k.1 == number with
      | some (_, opens) => if opens then [.blockMappingStart, .key] else [.key]
      | none => []
  | token => [token]

/-- The tokens of a scan in order. -/
def result (s : Scan) : List Token := s.tokens.reverse.flatMap (expand s.keys)

end Scan

/-- The text without a mark of the byte order at its front. -/
def withoutOrderMark (s : Text) : Text :=
  match s with
  | c :: rest => if c.toNat = 0xFEFF then rest else s
  | [] => []

/-- The tokens of a text, or nothing if it is no YAML. -/
def tokens? (text : Text) : Option (List Token) :=
  let text := withoutOrderMark text
  if text.all isAllowed then
    (Scan.run (text.length + 1) (.start (withoutOrderMark text))).map Scan.result
  else none

end Yaml

end Pushdown
