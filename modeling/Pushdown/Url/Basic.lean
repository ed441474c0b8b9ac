/-
**Absolute URLs.**

An absolute URL is read as a browser reads it: blanks and control characters around it and tabs and
line breaks inside it are dropped, the schemes of the web accept a backslash for a slash and need a
host, a file may have a host, and any other scheme may have a host or a path that is not
hierarchical.  Of the URL its path, query and fragment are kept, in percent-encoded form.

Main definitions:

* `Url` — path, query and fragment;
* `Url.Error` — why a text is no absolute URL;
* `Url.parse` — reading.
-/

import Pushdown.Url.Address
import Pushdown.Url.Domain
import Pushdown.Url.Path

set_option autoImplicit false

namespace Pushdown

/-- The parts of an absolute URL behind its host; a missing query or fragment is empty. -/
structure Url where
  path : Text
  query : Text
  fragment : Text
  deriving DecidableEq, Repr

namespace Url

/-- Why a text is no absolute URL. -/
inductive Error where
  /-- No scheme stands in front. -/
  | relative
  /-- The host is missing. -/
  | emptyHost
  /-- The port is no number of 16 bits. -/
  | invalidPort
  /-- The host counts as an IPv4 address and is not one. -/
  | invalidIpv4
  /-- The host in brackets is not an IPv6 address. -/
  | invalidIpv6
  /-- The host of a web scheme is no domain name. -/
  | invalidDomain
  /-- The host of another scheme has a character that no host may have. -/
  | invalidHostCharacter
  deriving DecidableEq, Repr

/-- The description of an error. -/
def Error.message : Error → Text
  | .relative => "relative URL without a base".toList
  | .emptyHost => "empty host".toList
  | .invalidPort => "invalid port number".toList
  | .invalidIpv4 => "invalid IPv4 address".toList
  | .invalidIpv6 => "invalid IPv6 address".toList
  | .invalidDomain => "invalid international domain name".toList
  | .invalidHostCharacter => "invalid domain character".toList

/-! ### Schemes -/

/-- The three ways in which what follows a scheme is read. -/
inductive SchemeKind where
  /-- A scheme of the web: a host is needed. -/
  | web
  /-- Files: a host may be left out. -/
  | file
  /-- Any other scheme. -/
  | other
  deriving DecidableEq, Repr

/-- The kind of a scheme in lower case. -/
def SchemeKind.of (scheme : Text) : SchemeKind :=
  if scheme = "file".toList then .file
  else if ["http".toList, "https".toList, "ws".toList, "wss".toList, "ftp".toList].contains scheme
    then .web
  else .other

/-- Whether a character separates segments. -/
def SchemeKind.isSlash (kind : SchemeKind) (c : Char) : Bool :=
  c = '/' || (c = '\\' && kind != .other)

/-- Whether a character ends the host and what belongs to it. -/
def SchemeKind.endsAuthority (kind : SchemeKind) (c : Char) : Bool :=
  kind.isSlash c || c = '?' || c = '#'

/-- A character that may follow the first letter of a scheme. -/
def isSchemeChar (c : Char) : Bool :=
  Percent.isAsciiAlphanum c || c = '+' || c = '-' || c = '.'

/-- The scheme in front of a text, in lower case, and the rest behind the colon. -/
def splitScheme? (s : Text) : Option (Text × Text) :=
  match s.takeWhile isSchemeChar, s.dropWhile isSchemeChar with
  | c :: scheme, ':' :: rest => if c.isAlpha then some (Text.toLower (c :: scheme), rest) else none
  | _, _ => none

/-! ### Hosts -/

/-- The host of a web scheme or a file, as normalized text. -/
def parseHost (host : Text) : Except Error Text :=
  match host with
  | '[' :: rest =>
      if rest.getLast? = some ']' ∧ isIpv6 rest.dropLast then .ok host else .error .invalidIpv6
  | _ =>
      match Percent.decode host with
      | .error _ => .error .invalidDomain
      | .ok decoded =>
          match Domain.normalize? decoded with
          | none => .error .invalidDomain
          | some [] => .error .emptyHost
          | some domain =>
              if endsInNumber domain && !isIpv4 domain then .error .invalidIpv4 else .ok domain

/-- The characters that no host of another scheme may have. -/
def isForbiddenInHost (c : Char) : Bool :=
  c.toNat = 0 || " #/:<>?@[\\]^|".toList.contains c

/-- The host of a scheme that is neither of the web nor for files. -/
def parseOpaqueHost (host : Text) : Except Error Text :=
  match host with
  | '[' :: rest =>
      if rest.getLast? = some ']' ∧ isIpv6 rest.dropLast then .ok host else .error .invalidIpv6
  | _ =>
      if host.any isForbiddenInHost then .error .invalidHostCharacter
      else .ok (encodeWith (fun _ => false) host)

/-- The host in front of a text and the rest: a colon ends it outside brackets. -/
def takeHost (kind : SchemeKind) (inBrackets : Bool) : Text → Text × Text
  | [] => ([], [])
  | c :: rest =>
      if (c = ':' && !inBrackets) || kind.endsAuthority c then ([], c :: rest)
      else
        let inBrackets := if c = '[' then true else if c = ']' then false else inBrackets
        let split := takeHost kind inBrackets rest
        (c :: split.1, split.2)

/-- The rest behind a port. -/
def skipPort (s : Text) : Except Error Text :=
  let digits := s.takeWhile isDigit
  let rest := s.dropWhile isDigit
  if 65535 < digitsValue 10 digits then .error .invalidPort
  else
    match rest with
    | [] => .ok []
    | c :: _ => if SchemeKind.web.endsAuthority c then .ok rest else .error .invalidPort

/-- The text behind the last `@` and the text before it, if there is an `@`. -/
def splitLastAt? : Text → Option (Text × Text)
  | [] => none
  | c :: rest =>
      match splitLastAt? rest with
      | some (user, host) => some (c :: user, host)
      | none => if c = '@' then some ([], rest) else none

/-- The rest behind host and port. -/
def skipAuthority (kind : SchemeKind) (s : Text) : Except Error Text :=
  let authority := s.takeWhile fun c => !kind.endsAuthority c
  let rest := s.dropWhile fun c => !kind.endsAuthority c
  -- A name may hold further `@`; the last one ends it.
  let user : Text × Text := (splitLastAt? authority).getD ([], authority)
  if (splitLastAt? authority).isSome && user.1.isEmpty && user.2.isEmpty && !rest.isEmpty then
    .error .emptyHost
  else
    let split := takeHost kind false (user.2 ++ rest)
    if kind = .web ∧ split.1 = [] then .error .emptyHost
    else
      match if kind = .web then parseHost split.1 else parseOpaqueHost split.1 with
      | .error e => .error e
      | .ok host =>
          match split.2 with
          | ':' :: port =>
              if host.isEmpty then .error .emptyHost
              else skipPort port
          | rest =>
              if host.isEmpty && !user.1.isEmpty && user.1 != [':'] then .error .emptyHost
              else .ok rest

/-! ### Query and fragment -/

/-- Completes a URL whose path is read: what follows starts with `?` or `#`, or is empty. -/
def withRest (kind : SchemeKind) (path : Text) (rest : Text) : Url :=
  let inQuery (c : Char) : Bool := inQuerySet c || (c = '\'' && kind != .other)
  match rest with
  | '?' :: more =>
      match Text.splitFirst? '#' more with
      | some (query, fragment) =>
          ⟨path, encodeWith inQuery query, encodeWith inFragmentSet fragment⟩
      | none => ⟨path, encodeWith inQuery more, []⟩
  | '#' :: fragment => ⟨path, [], encodeWith inFragmentSet fragment⟩
  | _ => ⟨path, [], []⟩

/-- The path in front of a query or a fragment, and the rest. -/
def splitPath (s : Text) : Text × Text :=
  (s.takeWhile fun c => c != '?' && c != '#', s.dropWhile fun c => c != '?' && c != '#')

/-- The URL whose hierarchical path starts behind its first slash. -/
def hierarchical (kind : SchemeKind) (s : Text) : Url :=
  let split := splitPath s
  withRest kind (Path.normalize (kind == .file) kind.isSlash split.1) split.2

/-- The URL behind its host: only a URL of another scheme may have an empty path. -/
def behindAuthority (kind : SchemeKind) (s : Text) : Url :=
  match s with
  | c :: rest =>
      if kind.isSlash c then hierarchical kind rest
      else if kind = .other ∧ (c = '?' ∨ c = '#') then withRest kind [] s
      else hierarchical kind s
  | [] => if kind = .other then ⟨[], [], []⟩ else hierarchical kind []

/-! ### Reading -/

/-- Reads what follows `file:`. -/
def parseFile (s : Text) : Except Error Url :=
  match s with
  | a :: rest =>
      if SchemeKind.file.isSlash a then
        match rest with
        | b :: rest' =>
            if SchemeKind.file.isSlash b then
              let host := rest'.takeWhile fun c => !SchemeKind.file.endsAuthority c
              let after := rest'.dropWhile fun c => !SchemeKind.file.endsAuthority c
              -- A drive letter where the host should be belongs to the path.
              if isDriveLetter host then .ok (hierarchical .file rest')
              -- Without a host the path keeps its first slash, and an empty segment stands in front.
              else if host.isEmpty then .ok (hierarchical .file after)
              else
                match parseHost host with
                | .error e => .error e
                | .ok _ => .ok (behindAuthority .file after)
            else .ok (hierarchical .file rest)
        | [] => .ok (hierarchical .file rest)
      else .ok (hierarchical .file s)
  | [] => .ok (hierarchical .file [])

/-- Reads what follows the colon of a scheme. -/
def parseBehindScheme (kind : SchemeKind) (s : Text) : Except Error Url :=
  match kind with
  | .file => parseFile s
  | .web => (skipAuthority .web (s.dropWhile SchemeKind.web.isSlash)).map (behindAuthority .web)
  | .other =>
      match s with
      -- Two slashes announce a host, one slash a path, and anything else is a path that is one
      -- piece.
      | '/' :: '/' :: rest => (skipAuthority .other rest).map (behindAuthority .other)
      | '/' :: rest => .ok (hierarchical .other rest)
      | _ =>
          let split := splitPath s
          .ok (withRest .other (encodeWith (fun _ => false) split.1) split.2)

/-- Whether a character is a control character of ASCII or a space. -/
def isControlOrSpace (c : Char) : Bool := c.toNat ≤ 0x20

/-- The text that is read: without control characters and spaces at its ends, and without tabs and
line breaks. -/
def cleaned (s : Text) : Text :=
  -- The ends first: a tab inside may stand next to a space that stays.
  let trimmed := ((s.dropWhile isControlOrSpace).reverse.dropWhile isControlOrSpace).reverse
  trimmed.filter fun c => c != '\t' && c != '\n' && c != '\r'

/-- The path, query and fragment of an absolute URL. -/
def parse (s : Text) : Except Error Url :=
  match splitScheme? (cleaned s) with
  | none => .error .relative
  | some (scheme, rest) => parseBehindScheme (SchemeKind.of scheme) rest

end Url

end Pushdown
