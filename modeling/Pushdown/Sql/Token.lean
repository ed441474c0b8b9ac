/-
**SQL tokens.**

A statement is a sequence of names, numbers, strings, placeholders and symbols; blanks and comments
only separate them.  A word without quotes may be a keyword; which ones are, is for the grammar to
say.

Main definitions:

* `Sql.Token` — a token;
* `Sql.StringStyle` — the notations of string literals;
* `Sql.Token.scan` — the tokens of a text in a dialect.
-/

import Pushdown.Sql.Dialect
import Pushdown.Text.Blank

set_option autoImplicit false

namespace Pushdown

namespace Sql

/-- The notations of string literals. -/
inductive StringStyle where
  /-- In single quotes. -/
  | single
  /-- In double quotes. -/
  | double
  /-- Behind `N`, of the national character set. -/
  | national
  /-- Behind `E`, with backslash escapes. -/
  | escaped
  /-- Behind `U&`, with numbered characters. -/
  | unicode
  /-- Between `$` signs around a tag. -/
  | dollar (tag : Text)
  /-- Behind `X` or `0x`, in hexadecimal digits. -/
  | hex
  /-- Behind `B`. -/
  | byteSingle
  /-- Behind `B`, in double quotes. -/
  | byteDouble
  /-- Behind `R`. -/
  | rawSingle
  /-- Behind `R`, in double quotes. -/
  | rawDouble
  /-- Behind `R`, in three single quotes. -/
  | rawTripleSingle
  /-- Behind `R`, in three double quotes. -/
  | rawTripleDouble
  deriving DecidableEq, Repr

/-- A token. -/
inductive Token where
  /-- A name or keyword, and the quote it stands in. -/
  | word (text : Text) (quote : Option Char)
  /-- A number, and whether it is marked as long. -/
  | number (digits : Text) (long : Bool)
  | string (style : StringStyle) (content : Text)
  | placeholder (text : Text)
  | symbol (text : Text)
  /-- A semicolon, with the text behind it: rows of data may stand there. -/
  | semicolon (behind : Text)
  /-- An operator made of several signs that has no meaning of its own. -/
  | operator (text : Text)
  /-- A colon; `joined` tells whether the next token follows without a blank. -/
  | colon (joined : Bool)
  /-- An `@`; `joined` tells whether the next token follows without a blank. -/
  | atSign (joined : Bool)
  deriving DecidableEq, Repr

namespace Token

/-- A step of the scan: a token, or nothing for a blank or comment, and the rest.  Nothing at all if
the text has no token here. -/
abbrev Step := Option (Option Token × Text)

/-! ### Strings -/

/-- The character a backslash escape stands for in a plain string. -/
def plainEscape (c : Char) : Char :=
  if c = '0' then Char.ofNat 0
  else if c = 'a' then Char.ofNat 7
  else if c = 'b' then Char.ofNat 8
  else if c = 'f' then Char.ofNat 12
  else if c = 'n' then '\n'
  else if c = 'r' then '\r'
  else if c = 't' then '\t'
  else if c = 'Z' then Char.ofNat 26
  else c

/-- The content of a string behind its opening quote, and the rest behind its closing quote.  A
doubled quote stands for one.  With `escapes`, a backslash stands with the next character for one
character; with `keepsWildcards`, a backslash in front of `%` or `_` stays. -/
def readString (quote : Char) (escapes keepsWildcards : Bool) : Text → Option (Text × Text)
  | [] => none
  | [c] => if c = quote then some ([], []) else none
  | c :: d :: rest =>
      if c = quote then
        if d = quote then
          (readString quote escapes keepsWildcards rest).map fun r => (quote :: r.1, r.2)
        else some ([], d :: rest)
      else if escapes && c = '\\' then
        if keepsWildcards && (d = '%' || d = '_') then
          (readString quote escapes keepsWildcards rest).map fun r => ('\\' :: d :: r.1, r.2)
        else
          (readString quote escapes keepsWildcards rest).map fun r => (plainEscape d :: r.1, r.2)
      else (readString quote escapes keepsWildcards (d :: rest)).map fun r => (c :: r.1, r.2)

/-- The content of a string in three quotes behind the opening ones; `count` quotes were just
passed. -/
def readTriple (quote : Char) : Nat → Text → Option (Text × Text)
  | _, [] => none
  | count, c :: rest =>
      if c = quote then
        if count = 2 then some ([], rest)
        else
          (readTriple quote (count + 1) rest).map fun r => (c :: r.1, r.2)
      else (readTriple quote 0 rest).map fun r => (c :: r.1, r.2)

/-- A raw string behind its letter: in one quote or in three. -/
def readRaw (quote : Char) (one three : StringStyle) (s : Text) : Step :=
  match s with
  | a :: b :: c :: rest =>
      if a = quote ∧ b = quote ∧ c = quote then
        (readTriple quote 0 rest).map fun r =>
          (some (string three (r.1.take (r.1.length - 2))), r.2)
      else if a = quote ∧ b = quote then some (some (string one []), c :: rest)
      else (readString quote false false (b :: c :: rest)).map fun r => (some (string one r.1), r.2)
  | [a, b] => if a = quote ∧ b = quote then some (some (string one []), []) else none
  | _ => none

/-- The digits of a base at the front of a text, at most `most` of them. -/
def digitsOf (isBaseDigit : Char → Bool) (most : Nat) (s : Text) : Text :=
  (s.take most).takeWhile isBaseDigit

/-- The number that digits of a base stand for. -/
def digitsValue (base : Nat) (digits : Text) : Nat :=
  digits.foldl (fun n c => n * base + (Text.hexValue? c).getD 0) 0

/-- The character of a number, if it is a scalar value. -/
def scalar? (n : Nat) : Option Char :=
  if n < 0xD800 ∨ (0xDFFF < n ∧ n < 0x110000) then some (Char.ofNat n) else none

/-- An octal digit. -/
def isOctal (c : Char) : Bool := '0' ≤ c && c ≤ '7'

/-- A hexadecimal digit. -/
def isHex (c : Char) : Bool := (Text.hexValue? c).isSome

/-- The character of exactly `count` hexadecimal digits. -/
def hexScalar? (count : Nat) (s : Text) : Option Char :=
  let digits := s.take count
  if digits.length = count ∧ digits.all isHex then scalar? (digitsValue 16 digits) else none

/-- The character of a number in exactly `count` characters: hexadecimal digits, of which the first
may be a plus sign. -/
def signedScalar? (count : Nat) (s : Text) : Option Char :=
  match s with
  | '+' :: rest => hexScalar? (count - 1) rest
  | _ => hexScalar? count s

/-- A byte below 128 of an octal or hexadecimal escape. -/
def asciiOctet? (n : Nat) : Option Char :=
  if n % 256 < 128 then some (Char.ofNat (n % 256)) else none

/-- The character of an escape behind its backslash, and the number of characters it takes. -/
def escapeAt? : Text → Option (Char × Nat)
  | [] => none
  | c :: rest =>
      if c = 'b' then some (Char.ofNat 8, 1)
      else if c = 'f' then some (Char.ofNat 12, 1)
      else if c = 'n' then some ('\n', 1)
      else if c = 'r' then some ('\r', 1)
      else if c = 't' then some ('\t', 1)
      else if c = 'u' then (signedScalar? 4 rest).map fun x => (x, 5)
      else if c = 'U' then (signedScalar? 8 rest).map fun x => (x, 9)
      else if c = 'x' then
        let digits := digitsOf isHex 2 rest
        if digits.isEmpty then some ('x', 1)
        else (asciiOctet? (digitsValue 16 digits)).map fun x => (x, 1 + digits.length)
      else if isOctal c then
        let digits := c :: digitsOf isOctal 2 rest
        (asciiOctet? (digitsValue 8 digits)).map fun x => (x, digits.length)
      else some (c, 1)

/-- The content of a string with backslash escapes behind its opening quote; `skip` characters are
already read.  No escape may stand for NUL. -/
def readEscaped : Nat → Text → Option (Text × Text)
  | _, [] => none
  | skip + 1, _ :: rest => readEscaped skip rest
  | 0, c :: rest =>
      if c = '\'' then
        match rest with
        | '\'' :: _ => (readEscaped 1 rest).map fun r => ('\'' :: r.1, r.2)
        | _ => some ([], rest)
      else if c = '\\' then
        match escapeAt? rest with
        | some (x, width) =>
            if x.toNat = 0 then none
            else (readEscaped width rest).map fun r => (x :: r.1, r.2)
        | none => none
      else (readEscaped 0 rest).map fun r => (c :: r.1, r.2)

/-- The content of a string with numbered characters behind its opening quote; `skip` characters are
already read. -/
def readUnicode : Nat → Text → Option (Text × Text)
  | _, [] => none
  | skip + 1, _ :: rest => readUnicode skip rest
  | 0, c :: rest =>
      if c = '\'' then
        match rest with
        | '\'' :: _ => (readUnicode 1 rest).map fun r => ('\'' :: r.1, r.2)
        | _ => some ([], rest)
      else if c = '\\' then
        match rest with
        | '\\' :: _ => (readUnicode 1 rest).map fun r => ('\\' :: r.1, r.2)
        | '+' :: more =>
            match hexScalar? 6 more with
            | some x => (readUnicode 7 rest).map fun r => (x :: r.1, r.2)
            | none => none
        | more =>
            match hexScalar? 4 more with
            | some x => (readUnicode 4 rest).map fun r => (x :: r.1, r.2)
            | none => none
      else (readUnicode 0 rest).map fun r => (c :: r.1, r.2)

/-- The content of a string up to a closing text. -/
def readUpTo (close : Text) : Text → Option (Text × Text)
  | [] => none
  | c :: rest =>
      match Text.dropPrefix? close (c :: rest) with
      | some rest => some ([], rest)
      | none => (readUpTo close rest).map fun r => (c :: r.1, r.2)

/-- A token behind a `$`: a string between two equal tags, or a placeholder. -/
def readDollar (d : Dialect) (s : Text) : Step :=
  if d.dollarPlaceholders then
    let name := s.takeWhile fun c => Text.isAlphanumeric c || c = '_' || c = '$'
    some (some (placeholder ('$' :: name)), s.drop name.length)
  else
    let tag := s.takeWhile fun c => Text.isAlphanumeric c || c = '_'
    match s.drop tag.length with
    | '$' :: rest =>
        (readUpTo ('$' :: tag ++ ['$']) rest).map fun r => (some (string (.dollar tag) r.1), r.2)
    | rest => some (some (placeholder ('$' :: tag)), rest)

/-! ### Comments -/

/-- The rest behind a comment to the end of its line. -/
def skipLine (d : Dialect) (s : Text) : Text :=
  (s.dropWhile fun c => c != '\n' && !(c = '\r' && d.name == .postgresql)).tail

/-- The rest behind a comment between `/*` and `*/`, `depth` comments deep. -/
def skipComment (nested : Bool) : Nat → Text → Option Text
  | _, [] => none
  | _, [_] => none
  | depth, c :: e :: rest =>
      if nested ∧ c = '/' ∧ e = '*' then skipComment nested (depth + 1) rest
      else if c = '*' ∧ e = '/' then
        if depth ≤ 1 then some rest else skipComment nested (depth - 1) rest
      else skipComment nested depth (e :: rest)

/-- The text inside a comment that holds tokens and the rest behind it, if such a comment starts
here.  Digits at its start tell a version and are passed over. -/
def telltale? (d : Dialect) (s : Text) : Option (Option (Text × Text)) :=
  if d.telltaleComments then
    (Text.dropPrefix? "/*!".toList s).map fun rest =>
      (readUpTo "*/".toList rest).map fun r => (r.1.dropWhile Char.isDigit, r.2)
  else none

/-! ### Words and numbers -/

/-- A word that starts with `lead`. -/
def readWord (d : Dialect) (lead s : Text) : Step :=
  let more := s.takeWhile d.continuesName
  let text := lead ++ more
  let rest := s.drop more.length
  if text.all fun c => c.isDigit || c = '.' then
    let digits := rest.takeWhile fun c => c.isDigit || c = '.'
    some (some (number (text ++ digits) false), rest.drop digits.length)
  else some (some (word text none), rest)

/-- The quote that closes a name. -/
def closingQuote (quote : Char) : Char := if quote = '[' then ']' else quote

/-- Whether a text starts with the letter of an exponent. -/
def startsExponent (s : Text) : Bool := s.head? = some 'e' || s.head? = some 'E'

/-- An exponent at the front of a text. -/
def exponentOf (s : Text) : Text :=
  match s with
  | e :: rest =>
      if e = 'e' ∨ e = 'E' then
        let signed :=
          match rest with
          | '+' :: rest => (['+'], rest)
          | '-' :: rest => (['-'], rest)
          | _ => ([], rest)
        let digits := signed.2.takeWhile Char.isDigit
        if digits.isEmpty then [] else e :: signed.1 ++ digits
      else []
  | [] => []

/-- Whether the token in front is a word. -/
def isWordToken : Option Token → Bool
  | some (word _ _) => true
  | _ => false

/-- The digits at the front of a text.  Where the dialect allows it, single underscores may stand
between them. -/
def digitRun (d : Dialect) (isDigit : Char → Bool) : Text → Text
  | [] => []
  | c :: rest =>
      -- The underscore has to stand in front of a digit, of whichever base.
      let spaces := d.spacedNumbers && c == '_' && (rest.head?.map isHex).getD false
      if isDigit c || spaces then c :: digitRun d isDigit rest else []

/-- A number, or a period that is part of none; `before` is the token directly in front. -/
def readNumber (d : Dialect) (before : Option Token) (s : Text) : Step :=
  let whole := digitRun d Char.isDigit s
  let rest := s.drop whole.length
  match whole, rest with
  | ['0'], 'x' :: rest =>
      let digits := digitRun d isHex rest
      some (some (string .hex digits), rest.drop digits.length)
  | _, _ =>
      let point : Text := if rest.head? = some '.' then ['.'] else []
      let rest := rest.drop point.length
      let lead := whole ++ point
      if lead = ['.'] ∧ d.numericNames ∧ isWordToken before then some (some (symbol ['.']), rest)
      else
        let fraction := digitRun d Char.isDigit rest
        let rest := rest.drop fraction.length
        let text := lead ++ fraction
        if text = ['.'] then some (some (symbol ['.']), rest)
        else
          -- A letter that may start an exponent ends a name that starts with digits.
          let ended := startsExponent rest
          let exponent := exponentOf rest
          let rest := rest.drop exponent.length
          let text := text ++ exponent
          let name := rest.takeWhile d.continuesName
          if d.numericNames ∧ !ended ∧ !name.isEmpty then
            some (some (word (text ++ name) none), rest.drop name.length)
          else if d.numericNames ∧ ended ∧ before = some (symbol ['.']) then
            some (some (word text none), rest)
          else
            match rest with
            | 'L' :: rest => some (some (number text true), rest)
            | _ => some (some (number text false), rest)

/-! ### Symbols -/

/-- The signs that run together into operators. -/
def isOperatorSign (c : Char) : Bool := "+-*/<>=~!@#%^&|\x60?".toList.contains c

/-- A symbol, or the longer operator of which it is the front. -/
def withSigns (d : Dialect) (s rest : Text) : Step :=
  let more := if d.customOperators then rest.takeWhile isOperatorSign else []
  if more.isEmpty then some (some (symbol s), rest)
  else some (some (operator (s ++ more)), rest.drop more.length)

/-- An operator of which `s` is the front; nothing if no further sign follows. -/
def onlyWithSigns (s rest : Text) : Step :=
  let more := rest.takeWhile isOperatorSign
  if more.isEmpty then none else some (some (operator (s ++ more)), rest.drop more.length)

/-- A symbol on its own. -/
def plain (s rest : Text) : Step := some (some (symbol s), rest)

/-- A token that starts with `-` and is no comment. -/
def readMinus (d : Dialect) : Text → Step
  | '>' :: '>' :: rest => withSigns d "->>".toList rest
  | '>' :: rest => withSigns d "->".toList rest
  | rest => withSigns d ['-'] rest

/-- A token that starts with `|`. -/
def readPipe (d : Dialect) : Text → Step
  | '/' :: rest => withSigns d "|/".toList rest
  | '|' :: '/' :: rest => withSigns d "||/".toList rest
  | '|' :: rest => withSigns d "||".toList rest
  | '&' :: rest =>
      if d.customOperators then
        match rest with
        | '>' :: rest => withSigns d "|&>".toList rest
        | _ => onlyWithSigns "|&".toList rest
      else withSigns d ['|'] ('&' :: rest)
  | '>' :: rest =>
      if d.customOperators then
        match rest with
        | '>' :: rest => withSigns d "|>>".toList rest
        | _ => onlyWithSigns "|>".toList rest
      else if d.pipeSteps then plain "|>".toList rest
      else withSigns d ['|'] ('>' :: rest)
  | rest => withSigns d ['|'] rest

/-- A token that starts with `<`. -/
def readLess (d : Dialect) : Text → Step
  | '=' :: '>' :: rest => withSigns d "<=>".toList rest
  | '=' :: rest => withSigns d "<=".toList rest
  | '>' :: rest => withSigns d "<>".toList rest
  | '<' :: rest =>
      match d.customOperators, rest with
      | true, '|' :: rest => withSigns d "<<|".toList rest
      | _, _ => withSigns d "<<".toList rest
  | '@' :: rest => withSigns d "<@".toList rest
  | '|' :: rest =>
      -- The short notation of the same operator.
      if d.customOperators then withSigns d "<<|".toList rest else withSigns d ['<'] ('|' :: rest)
  | '^' :: rest =>
      if d.customOperators then withSigns d "<^".toList rest else withSigns d ['<'] ('^' :: rest)
  | '-' :: rest =>
      if d.customOperators then
        match rest with
        | '>' :: rest => withSigns d "<->".toList rest
        | _ => onlyWithSigns "<-".toList rest
      else withSigns d ['<'] ('-' :: rest)
  | rest => withSigns d ['<'] rest

/-- A token that starts with `>`. -/
def readGreater (d : Dialect) : Text → Step
  | '=' :: rest => withSigns d ">=".toList rest
  | '>' :: rest => withSigns d ">>".toList rest
  | '^' :: rest =>
      if d.customOperators then withSigns d ">^".toList rest else withSigns d ['>'] ('^' :: rest)
  | rest => withSigns d ['>'] rest

/-- A token that starts with `!`. -/
def readBang : Text → Step
  | '=' :: rest => plain "!=".toList rest
  | '!' :: rest => plain "!!".toList rest
  | '~' :: '~' :: '*' :: rest => plain "!~~*".toList rest
  | '~' :: '~' :: rest => plain "!~~".toList rest
  | '~' :: '*' :: rest => plain "!~*".toList rest
  | '~' :: rest => plain "!~".toList rest
  | rest => plain ['!'] rest

/-- A token that starts with `~`. -/
def readTilde (d : Dialect) : Text → Step
  | '*' :: rest => withSigns d "~*".toList rest
  | '~' :: '*' :: rest => withSigns d "~~*".toList rest
  | '~' :: rest => withSigns d "~~".toList rest
  | '=' :: rest =>
      if d.customOperators then withSigns d "~=".toList rest else withSigns d ['~'] ('=' :: rest)
  | rest => withSigns d ['~'] rest

/-- A token that starts with `&`. -/
def readAmpersand (d : Dialect) : Text → Step
  | '&' :: rest => withSigns d "&&".toList rest
  | '>' :: rest =>
      -- The character behind this operator is passed over with it.
      if d.customOperators then plain "&>".toList rest.tail else withSigns d ['&'] ('>' :: rest)
  | '<' :: rest =>
      if d.customOperators then
        match rest with
        | '|' :: rest => plain "&<|".toList rest
        | _ => withSigns d "&<".toList rest
      else withSigns d ['&'] ('<' :: rest)
  | rest => withSigns d ['&'] rest

/-- A token that starts with `#` and is no comment. -/
def readHash (d : Dialect) : Text → Step
  | '-' :: rest => withSigns d "#-".toList rest
  | '>' :: '>' :: rest => withSigns d "#>>".toList rest
  | '>' :: rest => withSigns d "#>".toList rest
  | ' ' :: rest => plain ['#'] (' ' :: rest)
  | '#' :: rest =>
      if d.customOperators then withSigns d "##".toList rest
      else if d.startsName '#' then readWord d "##".toList rest
      else withSigns d ['#'] ('#' :: rest)
  | c :: rest =>
      if d.startsName '#' then readWord d ['#', c] rest else withSigns d ['#'] (c :: rest)
  | [] => plain ['#'] []

/-- A token that starts with `@`. -/
def readAt (d : Dialect) : Text → Step
  | [] => some (some (atSign true), [])
  | c :: rest =>
      if d.customOperators ∧ c = '@' then plain "@@".toList rest
      else if d.customOperators ∧ c = '-' then
        match rest with
        | '@' :: rest => plain "@-@".toList rest
        | _ => onlyWithSigns "@-".toList rest
      else if c = '>' then plain "@>".toList rest
      else if c = '?' then plain "@?".toList rest
      else if c = '@' then
        match rest with
        | e :: more =>
            if e != ' ' && d.startsName '@' then readWord d ['@', '@', e] more
            else plain "@@".toList rest
        | [] => plain "@@".toList []
      else if c = ' ' ∨ c = '\'' ∨ c = '"' ∨ c = '\x60' then some (some (atSign true), c :: rest)
      else if d.startsName '@' then readWord d ['@', c] rest
      else some (some (atSign true), c :: rest)

/-- A token that starts with `?`. -/
def readQuestion (d : Dialect) (s : Text) : Step :=
  if d.customOperators then
    match s with
    | '|' :: '|' :: rest => plain "?||".toList rest
    | '|' :: rest => plain "?|".toList rest
    | '&' :: rest => plain "?&".toList rest
    | '-' :: '|' :: rest => plain "?-|".toList rest
    | '-' :: rest => plain "?-".toList rest
    | '#' :: rest => plain "?#".toList rest
    -- The character behind a lone sign is passed over with it.
    | rest => plain ['?'] rest.tail
  else
    let digits := s.takeWhile Text.isNumeric
    some (some (placeholder ('?' :: digits)), s.drop digits.length)

/-- A token that starts with a sign. -/
def readSign (d : Dialect) (c : Char) (rest : Text) : Step :=
  if c = '-' then readMinus d rest
  else if c = '/' then
    match rest with
    | '/' :: more => if d.doubleSlash then plain "//".toList more else plain ['/'] rest
    | _ => plain ['/'] rest
  else if c = '%' then
    match rest with
    | e :: _ => if Text.isBlank e then plain ['%'] rest else withSigns d ['%'] rest
    | [] => plain ['%'] []
  else if c = '|' then readPipe d rest
  else if c = '=' then
    match rest with
    | '>' :: rest => plain "=>".toList rest
    | '=' :: rest => plain "==".toList rest
    | _ => plain ['='] rest
  else if c = '!' then readBang rest
  else if c = '<' then readLess d rest
  else if c = '>' then readGreater d rest
  else if c = ':' then
    match rest with
    | ':' :: rest => plain "::".toList rest
    | '=' :: rest => plain ":=".toList rest
    | _ => some (some (colon true), rest)
  else if c = '&' then readAmpersand d rest
  else if c = '^' then
    match rest with
    | '@' :: rest => plain "^@".toList rest
    | _ => plain ['^'] rest
  else if c = '~' then readTilde d rest
  else if c = '#' then readHash d rest
  else if c = '@' then readAt d rest
  else if c = '?' then readQuestion d rest
  else if c = ';' then some (some (semicolon rest), rest)
  else plain [c] rest

/-! ### The scan -/

/-- A string behind a letter that is its mark, or a word that starts with the letter. -/
def readMarked (d : Dialect) (c : Char) (rest : Text) : Option Step :=
  match rest with
  | '\'' :: more =>
      if (c = 'b' ∨ c = 'B') ∧ d.byteStrings then
        some ((readString '\'' false false more).map fun r => (some (string .byteSingle r.1), r.2))
      else if (c = 'r' ∨ c = 'R') ∧ d.rawStrings then
        some (readRaw '\'' .rawSingle .rawTripleSingle rest)
      else if c = 'n' ∨ c = 'N' then
        some ((readString '\'' d.backslashEscapes d.backslashEscapes more).map fun r =>
          (some (string .national r.1), r.2))
      else if (c = 'e' ∨ c = 'E') ∧ d.escapeStrings then
        some ((readEscaped 0 more).map fun r => (some (string .escaped r.1), r.2))
      else if c = 'x' ∨ c = 'X' then
        some ((readString '\'' true d.backslashEscapes more).map fun r =>
          (some (string .hex r.1), r.2))
      else none
  | '"' :: more =>
      if (c = 'b' ∨ c = 'B') ∧ d.byteStrings then
        some ((readString '"' false false more).map fun r => (some (string .byteDouble r.1), r.2))
      else if (c = 'r' ∨ c = 'R') ∧ d.rawStrings then
        some (readRaw '"' .rawDouble .rawTripleDouble rest)
      else none
  | '&' :: '\'' :: more =>
      if (c = 'u' ∨ c = 'U') ∧ d.unicodeStrings then
        some ((readUnicode 0 more).map fun r => (some (string .unicode r.1), r.2))
      else none
  | _ => none

/-- The token at the front of a text that starts with `c`; `before` is the token directly in
front. -/
def readOne (d : Dialect) (before : Option Token) (c : Char) (rest : Text) : Step :=
  if c = ' ' ∨ c = '\t' ∨ c = '\n' ∨ c = '\r' then some (none, rest)
  else
    match readMarked d c rest with
    | some step => step
    | none =>
        if "bBrRnNeEuUxX".toList.contains c && c.isAlpha && d.startsName c then readWord d [c] rest
        else if c = '\'' then
          (readString '\'' d.backslashEscapes d.backslashEscapes rest).map fun r =>
            (some (string .single r.1), r.2)
        else if d.nameQuotes.contains c then
          (readString (closingQuote c) false false rest).map fun r =>
            (some (word r.1 (some c)), r.2)
        else if c = '"' then
          (readString '"' d.backslashEscapes d.backslashEscapes rest).map fun r =>
            (some (string .double r.1), r.2)
        else if c.isDigit then readNumber d before (c :: rest)
        else if c = '.' then
          if rest.head? = some '_' then
            if isWordToken before then plain ['.'] rest else none
          else readNumber d before (c :: rest)
        else if c = '-' ∧ rest.head? = some '-' ∧
            (!d.spacedComments || rest.tail.head? = some ' ') then
          some (none, skipLine d rest.tail)
        else if c = '/' ∧ rest.head? = some '*' then
          (skipComment d.nestedComments 1 rest.tail).map fun rest => (none, rest)
        else if c = '#' ∧ d.hashComments then some (none, skipLine d rest)
        else if "-/+*%|=!<>:&^~#@?(),;\\[]\x7b\x7d".toList.contains c then readSign d c rest
        else if d.startsName c then readWord d [c] rest
        else if c = '$' then readDollar d rest
        else if Text.isBlank c then some (none, rest)
        else plain [c] rest

/-- Marks a token in front of a blank. -/
def detach : Token → Token
  | colon _ => colon false
  | atSign _ => atSign false
  | token => token

/-- The tokens of a text; `before` is the token directly in front and not yet listed. -/
def scanFrom (d : Dialect) : Nat → Option Token → Text → Option (List Token)
  | 0, _, _ => none
  | _ + 1, before, [] => some before.toList
  | fuel + 1, before, c :: rest =>
      match telltale? d (c :: rest) with
      | some none => none
      | some (some (inner, rest)) =>
          (scanFrom d fuel before inner).bind fun told =>
            (scanFrom d fuel none rest).map fun tokens => told ++ tokens
      | none =>
          match readOne d before c rest with
          | none => none
          | some (none, rest) =>
              (scanFrom d fuel none rest).map fun tokens =>
                (before.map detach).toList ++ tokens
          | some (some token, rest) =>
              (scanFrom d fuel (some token) rest).map fun tokens => before.toList ++ tokens

/-- The tokens of a text, or nothing if a string, name or comment does not end or an escape is
wrong. -/
def scan (d : Dialect) (s : Text) : Option (List Token) := scanFrom d (s.length + 1) none s

end Token

end Sql

end Pushdown
