/-
**Reading JSON.**

The reader takes one value with blanks around it.  Containers nest at most 127 deep.  A number
without fraction and exponent that fits a 64 bit word is an integer; any other is read into a
64 bit significand and a power of ten, and scaled with one rounded operation of double
precision for every 308 powers.  Digits that no longer fit the significand only count as powers of
ten before the point and are dropped after it.  A number too large for double precision is refused.

Main definitions:

* `Json.ReadError` — why a text is no JSON value;
* `Json.Numeral`, `Json.readNumber` — numbers;
* `Json.readString` — string literals;
* `Json.parse` — a whole text.
-/

import Pushdown.Json.Basic

set_option autoImplicit false

namespace Pushdown

namespace Json

/-- Why a text is no JSON value. -/
inductive ReadError where
  /-- A character, or the end, stands where the grammar does not allow it. -/
  | unexpected
  /-- Containers nest too deep. -/
  | tooDeep
  /-- A number is too large for double precision. -/
  | outOfRange
  deriving DecidableEq, Repr

/-- What a reader takes from the front of a text, and the rest. -/
abbrev Reader (α : Type) := Text → Except ReadError (α × Text)

/-- The blanks between tokens. -/
def isSpace (c : Char) : Bool := c = ' ' || c = '\n' || c = '\t' || c = '\r'

/-- The text from its first character that is not blank. -/
def skipSpace (s : Text) : Text := s.dropWhile isSpace

/-- A decimal digit. -/
def isDigit (c : Char) : Bool := '0' ≤ c && c ≤ '9'

/-- The value of a decimal digit. -/
def digitValue (c : Char) : Nat := c.toNat - 48

/-! ### Numbers -/

/-- The greatest significand. -/
def maxSignificand : Nat := 0xFFFFFFFFFFFFFFFF

/-- Digits of a number as far as they are read: significand, power of ten, and whether the
significand is full. -/
structure Numeral where
  significand : Nat
  power : Int
  full : Bool

/-- Reads digits before the point: when one no longer fits, it and the following ones only count
as powers of ten. -/
def wholeDigits (n : Numeral) : Text → Numeral × Text
  | [] => (n, [])
  | c :: rest =>
      if isDigit c then
        let next := n.significand * 10 + digitValue c
        if n.full || maxSignificand < next then
          wholeDigits { n with power := n.power + 1, full := true } rest
        else wholeDigits { n with significand := next } rest
      else (n, c :: rest)

/-- Reads digits after the point: when one no longer fits, it and the following ones are
dropped. -/
def fractionDigits (n : Numeral) : Text → Numeral × Text
  | [] => (n, [])
  | c :: rest =>
      if isDigit c then
        let next := n.significand * 10 + digitValue c
        if n.full || maxSignificand < next then fractionDigits { n with full := true } rest
        else fractionDigits { n with significand := next, power := n.power - 1 } rest
      else (n, c :: rest)

/-- The magnitude nearest to `10 ^ k`, for `k` up to 308. -/
def powerOfTen (k : Nat) : Magnitude := (Magnitude.ofNat? (Nat.pow 10 k)).getD Magnitude.zero

/-- Scales a magnitude by a power of ten, by division in steps of 308 powers where it is very
negative. -/
def scale : Nat → Magnitude → Int → Except ReadError Magnitude
  | 0, x, _ => .ok x
  | steps + 1, x, power =>
      if power.natAbs ≤ 308 then
        if 0 ≤ power then
          match x.mul? (powerOfTen power.natAbs) with
          | some y => .ok y
          | none => .error .outOfRange
        else .ok ((x.div? (powerOfTen power.natAbs)).getD Magnitude.zero)
      else if x.significand = 0 then .ok x
      else if 0 ≤ power then .error .outOfRange
      else scale steps ((x.div? (powerOfTen 308)).getD Magnitude.zero) (power + 308)

/-- The number with a given sign, significand and power of ten.  Three steps of division bring
every significand to zero. -/
def scaled (negative : Bool) (significand : Nat) (power : Int) : Except ReadError Json :=
  match scale 4 ((Magnitude.ofNat? significand).getD Magnitude.zero) power with
  | .ok x => .ok (double ⟨negative, x⟩)
  | .error e => .error e

/-- The greatest exponent that is read digit by digit. -/
def maxExponent : Nat := 0x7FFFFFFF

/-- Reads the digits of an exponent; nothing stands for an exponent that is too large. -/
def exponentDigits (n : Nat) : Text → Option Nat × Text
  | [] => (some n, [])
  | c :: rest =>
      if isDigit c then
        let next := n * 10 + digitValue c
        if maxExponent < next then (none, rest.dropWhile isDigit) else exponentDigits next rest
      else (some n, c :: rest)

/-- Keeps a power of ten in the range of a signed 32 bit word. -/
def clampPower (p : Int) : Int := max (-0x80000000) (min 0x7FFFFFFF p)

/-- Reads an exponent behind the `e` of a number. -/
def readExponent (negative : Bool) (n : Numeral) (s : Text) : Except ReadError (Json × Text) :=
  let signed : Bool × Text :=
    match s with
    | '+' :: rest => (false, rest)
    | '-' :: rest => (true, rest)
    | _ => (false, s)
  -- A sign has to be followed by a digit.
  match signed.2 with
  | [] => .error .unexpected
  | c :: rest =>
      if isDigit c then
        match exponentDigits (digitValue c) rest with
        | (some e, rest) =>
            let power := if signed.1 then n.power - e else n.power + e
            (scaled negative n.significand (clampPower power)).map fun j => (j, rest)
        | (none, rest) =>
            if n.significand ≠ 0 ∧ signed.1 = false then .error .outOfRange
            else .ok (double ⟨negative, Magnitude.zero⟩, rest)
      else .error .unexpected

/-- Reads what may follow the digits of a number that is not an integer. -/
def readTail (negative : Bool) (n : Numeral) : Reader Json
  | 'e' :: rest => readExponent negative n rest
  | 'E' :: rest => readExponent negative n rest
  | rest => (scaled negative n.significand n.power).map fun j => (j, rest)

/-- Reads the fraction behind the point of a number.  A full significand may take further digits
after the point, if they fit. -/
def readFraction (negative : Bool) (n : Numeral) : Reader Json
  | [] => .error .unexpected
  | c :: rest =>
      if isDigit c then
        match fractionDigits { n with full := false } (c :: rest) with
        | (n, rest) => readTail negative n rest
      else .error .unexpected

/-- An integer in the range of a 64 bit word, or the number of double precision next to it.
Zero with a minus sign is of double precision. -/
def integerOrDouble (negative : Bool) (significand : Nat) : Except ReadError Json :=
  if !negative then .ok (integer significand)
  else if significand = 0 ∨ 0x8000000000000000 < significand then scaled true significand 0
  else .ok (integer (-significand))

/-- Reads a number behind its sign. -/
def readUnsigned (negative : Bool) : Reader Json
  | [] => .error .unexpected
  | c :: rest =>
      if isDigit c then
        let leading : Option (Numeral × Text) :=
          if c = '0' then
            match rest with
            | d :: _ => if isDigit d then none else some (⟨0, 0, false⟩, rest)
            | [] => some (⟨0, 0, false⟩, rest)
          else some (wholeDigits ⟨digitValue c, 0, false⟩ rest)
        match leading with
        | none => .error .unexpected
        | some (n, '.' :: rest) => readFraction negative n rest
        | some (n, 'e' :: rest) => readExponent negative n rest
        | some (n, 'E' :: rest) => readExponent negative n rest
        | some (n, rest) =>
            if n.full then (scaled negative n.significand n.power).map fun j => (j, rest)
            else (integerOrDouble negative n.significand).map fun j => (j, rest)
      else .error .unexpected

/-- Reads a number. -/
def readNumber : Reader Json
  | '-' :: rest => readUnsigned true rest
  | s => readUnsigned false s

/-! ### Strings -/

/-- The value of four hexadecimal digits. -/
def hexQuad? (a b c d : Char) : Option Nat :=
  match Text.hexValue? a, Text.hexValue? b, Text.hexValue? c, Text.hexValue? d with
  | some a, some b, some c, some d => some (((a * 16 + b) * 16 + c) * 16 + d)
  | _, _, _, _ => none

/-- The character of a one letter escape. -/
def shortEscape? (c : Char) : Option Char :=
  if c = '"' then some '"'
  else if c = '\\' then some '\\'
  else if c = '/' then some '/'
  else if c = 'b' then some (Char.ofNat 8)
  else if c = 'f' then some (Char.ofNat 12)
  else if c = 'n' then some '\n'
  else if c = 'r' then some '\r'
  else if c = 't' then some '\t'
  else none

/-- Reads a string behind its opening quote.  Of a pair of surrogates each half is an escape of its
own; a half without the other is refused.  `skip` characters are already read. -/
def stringFrom : Nat → Text → Except ReadError (Text × Text)
  | _, [] => .error .unexpected
  | skip + 1, _ :: rest => stringFrom skip rest
  | 0, c :: rest =>
      if c = '"' then .ok ([], rest)
      else if c.toNat < 32 then .error .unexpected
      else if c = '\\' then
        match rest with
        | [] => .error .unexpected
        | 'u' :: a :: b :: c :: d :: more =>
            match hexQuad? a b c d with
            | none => .error .unexpected
            | some n =>
                if 0xDC00 ≤ n ∧ n ≤ 0xDFFF then .error .unexpected
                else if 0xD800 ≤ n ∧ n ≤ 0xDBFF then
                  match more with
                  | '\\' :: 'u' :: a :: b :: c :: d :: _ =>
                      match hexQuad? a b c d with
                      | some low =>
                          -- Eleven characters: `u`, four digits and the second escape.
                          if 0xDC00 ≤ low ∧ low ≤ 0xDFFF then
                            (stringFrom 11 rest).map fun r =>
                              (Char.ofNat (0x10000 + (n - 0xD800) * 0x400 + (low - 0xDC00)) :: r.1,
                                r.2)
                          else .error .unexpected
                      | none => .error .unexpected
                  | _ => .error .unexpected
                else (stringFrom 5 rest).map fun r => (Char.ofNat n :: r.1, r.2)
        | e :: _ =>
            match shortEscape? e with
            | some x => (stringFrom 1 rest).map fun r => (x :: r.1, r.2)
            | none => .error .unexpected
      else (stringFrom 0 rest).map fun r => (c :: r.1, r.2)

/-- Reads a string behind its opening quote. -/
def readString : Reader Text := stringFrom 0

/-! ### Values -/

/-- Reads the items of an array from the first one on; `fuel` bounds their number. -/
def readItems (item : Reader Json) : Nat → Reader (List Json)
  | 0, _ => .error .unexpected
  | fuel + 1, s =>
      match item s with
      | .error e => .error e
      | .ok (value, rest) =>
          match skipSpace rest with
          | ']' :: rest => .ok ([value], rest)
          | ',' :: rest => (readItems item fuel rest).map fun r => (value :: r.1, r.2)
          | _ => .error .unexpected

/-- Reads the members of an object from the first one on; `fuel` bounds their number. -/
def readMembers (item : Reader Json) : Nat → Reader (List (Text × Json))
  | 0, _ => .error .unexpected
  | fuel + 1, s =>
      match skipSpace s with
      | '"' :: rest =>
          match readString rest with
          | .error e => .error e
          | .ok (name, rest) =>
              match skipSpace rest with
              | ':' :: rest =>
                  match item rest with
                  | .error e => .error e
                  | .ok (value, rest) =>
                      match skipSpace rest with
                      | '\x7d' :: rest => .ok ([(name, value)], rest)
                      | ',' :: rest =>
                          (readMembers item fuel rest).map fun r => ((name, value) :: r.1, r.2)
                      | _ => .error .unexpected
              | _ => .error .unexpected
      | _ => .error .unexpected

/-- Reads an array behind its bracket. -/
def readArray (item : Reader Json) (s : Text) : Except ReadError (Json × Text) :=
  match skipSpace s with
  | ']' :: rest => .ok (array [], rest)
  | _ => (readItems item (s.length + 1) s).map fun r => (array r.1, r.2)

/-- Reads an object behind its brace. -/
def readObject (item : Reader Json) (s : Text) : Except ReadError (Json × Text) :=
  match skipSpace s with
  | '\x7d' :: rest => .ok (object [], rest)
  | _ => (readMembers item (s.length + 1) s).map fun r => (ofMembers r.1, r.2)

/-- Reads a fixed word. -/
def readWord (word : Text) (value : Json) (s : Text) : Except ReadError (Json × Text) :=
  match Text.dropPrefix? word s with
  | some rest => .ok (value, rest)
  | none => .error .unexpected

/-- Reads a value that may hold `depth` levels of containers, after blanks. -/
def readValue : Nat → Reader Json
  | depth, s =>
      match skipSpace s with
      | [] => .error .unexpected
      | c :: rest =>
          if c = 'n' then readWord "ull".toList null rest
          else if c = 't' then readWord "rue".toList (bool true) rest
          else if c = 'f' then readWord "alse".toList (bool false) rest
          else if c = '"' then (readString rest).map fun r => (string r.1, r.2)
          else if c = '[' then
            match depth with
            | 0 => .error .tooDeep
            | depth + 1 => readArray (readValue depth) rest
          else if c = '\x7b' then
            match depth with
            | 0 => .error .tooDeep
            | depth + 1 => readObject (readValue depth) rest
          else readNumber (c :: rest)

/-- The number of levels to which containers may nest. -/
def depthLimit : Nat := 127

/-- The value a whole text stands for. -/
def parse (s : Text) : Except ReadError Json :=
  match readValue depthLimit s with
  | .error e => .error e
  | .ok (value, rest) => if (skipSpace rest).isEmpty then .ok value else .error .unexpected

end Json

end Pushdown
