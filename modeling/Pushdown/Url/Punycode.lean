/-
**Punycode.**

Punycode writes a text in ASCII.  The ASCII characters stand first; behind the last hyphen stand
numbers, each of which tells by how much the next character to insert, and the place where it goes,
differ from those before.  A number has digits of growing weight up to its first digit below a
threshold, and the thresholds adapt to the numbers read so far.

Main definitions:

* `Punycode.decode` — the text that a Punycode text stands for.
-/

import Pushdown.Text.Basic

set_option autoImplicit false

namespace Pushdown

namespace Punycode

/-! ### Numbers -/

/-- The value of a digit: the letters stand for 0 to 25, the decimal digits for 26 to 35. -/
def digitValue? (c : Char) : Option Nat :=
  if 'a' ≤ c ∧ c ≤ 'z' then some (c.toNat - 'a'.toNat)
  else if 'A' ≤ c ∧ c ≤ 'Z' then some (c.toNat - 'A'.toNat)
  else if '0' ≤ c ∧ c ≤ '9' then some (c.toNat - '0'.toNat + 26)
  else none

/-- The threshold at a place: the distance from the bias, between 1 and 26. -/
def threshold (place bias : Nat) : Nat := max 1 (min 26 (place - bias))

/-- Divides a difference by 35 until it is small; every division adds 36 to the bias. -/
def shrink : Nat → Nat → Nat → Nat
  | 0, bias, delta => bias + 36 * delta / (delta + 38)
  | fuel + 1, bias, delta =>
      if 455 < delta then shrink fuel (bias + 36) (delta / 35)
      else bias + 36 * delta / (delta + 38)

/-- The bias behind a number, when the text has some length. -/
def adapt (delta length : Nat) (isFirst : Bool) : Nat :=
  let delta := if isFirst then delta / 700 else delta / 2
  let delta := delta + delta / length
  shrink delta 0 delta

/-! ### Insertions -/

/-- Where decoding stands. -/
structure State where
  /-- The text so far. -/
  text : Text
  /-- The scalar value to insert next, or one below it. -/
  scalar : Nat
  /-- The place behind the last insertion. -/
  place : Nat
  bias : Nat
  /-- Whether no character has been inserted. -/
  isFirst : Bool
  /-- The value of the digits of the number that is being read. -/
  delta : Nat
  /-- The weight of the next digit. -/
  weight : Nat
  /-- The place of the next digit, counted in steps of 36. -/
  digitPlace : Nat

/-- The state in front of the first number. -/
def State.initial (text : Text) : State where
  text := text
  scalar := 0x80
  place := 0
  bias := 72
  isFirst := true
  delta := 0
  weight := 1
  digitPlace := 36

/-- The state behind a number: its character is inserted.  There is none if the number leads out of
the scalar values. -/
def State.insert (s : State) : Option State :=
  let length := s.text.length + 1
  let sum := s.place + s.delta
  let scalar := s.scalar + sum / length
  let place := sum % length
  if scalar.isValidChar then
    some
      { State.initial (s.text.take place ++ Char.ofNat scalar :: s.text.drop place) with
        scalar := scalar
        place := place + 1
        bias := adapt s.delta length s.isFirst
        isFirst := false }
  else none

/-- The state behind a digit. -/
def State.readDigit (s : State) (digit : Nat) : Option State :=
  let limit := threshold s.digitPlace s.bias
  let s := { s with delta := s.delta + digit * s.weight }
  if digit < limit then s.insert
  else some { s with weight := s.weight * (36 - limit), digitPlace := s.digitPlace + 36 }

/-- Reads the digits of all numbers; the last number has to be complete. -/
def readDigits : State → Text → Option Text
  | s, [] => if s.weight = 1 then some s.text else none
  | s, c :: rest => do readDigits (← s.readDigit (← digitValue? c)) rest

/-- The text in front of the last hyphen and the text behind it.  Without a hyphen, or if nothing
stands in front of it, all of the text stands behind. -/
def splitLastHyphen (s : Text) : Text × Text :=
  let digits := (s.reverse.takeWhile fun c => c != '-').reverse
  let front := s.take (s.length - digits.length - 1)
  if front.isEmpty then ([], s) else (front, digits)

/-- The text that a Punycode text stands for. -/
def decode (s : Text) : Option Text :=
  let parts := splitLastHyphen s
  if parts.1.all fun c => decide (c.toNat < 0x80) then readDigits (.initial parts.1) parts.2
  else none

end Punycode

end Pushdown
