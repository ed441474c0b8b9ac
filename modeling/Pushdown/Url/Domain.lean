/-
**Domain names.**

A domain name consists of labels with points between.  Its characters are folded; it is refused if a
character in it may not stand in a domain name, if a label starts with a mark, holds a joiner at a
wrong place or is too long, if a label that starts with `xn--` stands for no label, or if something
in it is written from right to left and a label mixes directions.

Main definitions:

* `Url.Domain.decodeLabel?` — the label that a label of a folded name stands for;
* `Url.Domain.normalize?` — the folded name, or nothing.
-/

import Pushdown.Codec.Percent
import Pushdown.Text.Direction
import Pushdown.Url.Domain.Fold
import Pushdown.Url.Punycode

set_option autoImplicit false

namespace Pushdown

namespace Url

namespace Domain

/-- Whether a character lies outside ASCII. -/
def isWide (c : Char) : Bool := 0x80 ≤ c.toNat

/-- Whether a text starts with no mark, its joiners stand where they make sense, and it is not too
long to be encoded. -/
def isShaped (s : Text) : Bool :=
  !(s.head?.map Text.isMark).getD false && Text.joinersFit s && (s.length ≤ 1000 || !s.any isWide)

/-- The label that Punycode stands for: something that is not all ASCII and is its own folded form.
-/
def decodePunycode? (s : Text) : Option Text :=
  if 2000 < s.length || s.getLast? == some '-' then none
  else
    match Punycode.decode s with
    | none => none
    | some label => if label.any isWide && isFolded label then some label else none

/-- The label that a label of a folded name stands for. -/
def decodeLabel? (s : Text) : Option Text :=
  let decoded :=
    match s with
    | 'x' :: 'n' :: '-' :: '-' :: rest => decodePunycode? rest
    | _ => some s
  match decoded with
  | none => none
  | some label => if isShaped label then some label else none

/-- Whether labels may make a name: each stands for a label, and none mixes directions if something
is written from right to left. -/
def areLabels (labels : List Text) : Bool :=
  match labels.mapM decodeLabel? with
  | none => false
  | some decoded => !decoded.any Text.needsOneWay || decoded.all Text.isOneWay

/-- The folded form of a domain name. -/
def normalize? (s : Text) : Option Text :=
  match fold s with
  | none => none
  | some folded => if areLabels (Text.splitAll '.' folded) then some folded else none

end Domain

end Url

end Pushdown
