/-
**Numeric hosts.**

A host in brackets is an IPv6 address: eight groups of up to four hexadecimal digits, of which one
run may be left out as `::` and the last two may be written as an IPv4 address.  Any other host
whose last part is a number is an IPv4 address: up to four parts in decimal, octal or hexadecimal
notation, the last of which fills the octets that the others leave.  Only validity matters here,
because a virtual table keeps the path of an absolute URL and not its host.

Main definitions:

* `Url.isIpv6` — the text between the brackets is an address;
* `Url.endsInNumber` — the host counts as an IPv4 address;
* `Url.isIpv4` — the host is a valid one.
-/

import Pushdown.Text.Basic

set_option autoImplicit false

namespace Pushdown

namespace Url

/-- A decimal digit. -/
def isDigit (c : Char) : Bool := '0' ≤ c && c ≤ '9'

/-- A hexadecimal digit. -/
def isHexDigit (c : Char) : Bool := (Text.hexValue? c).isSome

/-! ### IPv4 -/

/-- Why a part of a host is no number in the range of 32 bits. -/
inductive PartValue where
  /-- The part is not written as a number. -/
  | notANumber
  /-- The part is a number of more than 32 bits. -/
  | tooLarge
  | value (n : Nat)
  deriving DecidableEq, Repr

/-- The number that digits stand for. -/
def digitsValue (base : Nat) (digits : Text) : Nat :=
  digits.foldl (fun n c => n * base + (Text.hexValue? c).getD 0) 0

/-- A number with digits of a given base; no digits stand for zero. -/
def numberIn (base : Nat) (isBaseDigit : Char → Bool) (digits : Text) : PartValue :=
  if digits.all isBaseDigit then
    let n := digitsValue base digits
    if n < 0x100000000 then .value n else .tooLarge
  else .notANumber

/-- The value of a part: hexadecimal behind `0x`, octal behind another leading zero, decimal
otherwise. -/
def partValue : Text → PartValue
  | [] => .notANumber
  | '0' :: 'x' :: digits => numberIn 16 isHexDigit digits
  | '0' :: 'X' :: digits => numberIn 16 isHexDigit digits
  | '0' :: d :: digits => numberIn 8 (fun c => '0' ≤ c && c ≤ '7') (d :: digits)
  | digits => numberIn 10 isDigit digits

/-- The parts of a host without an empty last one. -/
def hostParts (host : Text) : List Text :=
  let parts := Text.splitAll '.' host
  if parts.getLast? = some [] then parts.dropLast else parts

/-- Whether the last part of a host is a number. -/
def endsInNumber (host : Text) : Bool :=
  match (hostParts host).getLast? with
  | none => false
  | some [] => false
  | some part => part.all isDigit || partValue part != .notANumber

/-- Whether the values fill an address: all but the last are single octets. -/
def fillsAddress : List PartValue → Bool
  | [] => false
  | values =>
      let room := Nat.pow 256 (5 - values.length)
      values.length ≤ 4 &&
        values.dropLast.all (fun | .value n => n ≤ 255 | _ => false) &&
        (match values.getLast? with
          | some (.value n) => n < room
          | _ => false)

/-- Whether a host is an IPv4 address. -/
def isIpv4 (host : Text) : Bool := fillsAddress ((hostParts host).map partValue)

/-! ### IPv6 -/

/-- One octet of an embedded IPv4 address: a number up to 255 without a leading zero. -/
def isDottedOctet (part : Text) : Bool :=
  !part.isEmpty && part.all isDigit && (part.length == 1 || part.head? != some '0') &&
    part.length ≤ 3 && digitsValue 10 part ≤ 255

/-- Whether a text is four octets in decimal with points between them. -/
def isDottedQuad (s : Text) : Bool :=
  let parts := Text.splitAll '.' s
  parts.length == 4 && parts.all isDottedOctet

/-- Whether the rest of an address is valid behind `groups` groups; `compressed` tells whether `::`
was seen; `fuel` bounds the number of groups. -/
def isIpv6From : Nat → Nat → Bool → Text → Bool
  | 0, _, _, _ => false
  | _ + 1, groups, compressed, [] => compressed || groups == 8
  | fuel + 1, groups, compressed, c :: rest =>
      if groups == 8 then false
      else if c = ':' then
        if compressed then false else isIpv6From fuel (groups + 1) true rest
      else
        let digits := ((c :: rest).take 4).takeWhile isHexDigit
        match (c :: rest).drop digits.length with
        | [] => isIpv6From fuel (groups + 1) compressed []
        | '.' :: _ =>
            !digits.isEmpty && groups ≤ 6 && isDottedQuad (c :: rest) &&
              (compressed || groups == 6)
        | ':' :: more => !more.isEmpty && isIpv6From fuel (groups + 1) compressed more
        | _ => false

/-- Whether the text between the brackets of a host is an IPv6 address. -/
def isIpv6 : Text → Bool
  | ':' :: ':' :: rest => isIpv6From (rest.length + 2) 1 true rest
  | ':' :: _ => false
  | s => 2 ≤ s.length && isIpv6From (s.length + 2) 0 false s

end Url

end Pushdown
