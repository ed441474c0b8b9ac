/-
**UTF-8.**

Characters become octets, numbers below 256, in the shortest of the four forms, and octets are read
back one character at a time.  Reading distinguishes an octet sequence that no continuation could
make valid from one that merely ends too early, and reports how many octets belong to the fault.

Main definitions:

* `Utf8.encodeChar`, `Utf8.encode` — the octets of a character and of a text;
* `Utf8.Reading`, `Utf8.read` — what stands at the front of an octet sequence;
* `Utf8.decode` — the text, or the first fault and its position;
* `Utf8.decodeLossy` — the text with U+FFFD for every fault.

Main results:

* `Utf8.read_encodeChar` — a character's octets read back as that character, whatever follows;
* `Utf8.decode_encode`, `Utf8.decodeLossy_encode` — both decoders invert the encoder.
-/

import Pushdown.Text.Basic

set_option autoImplicit false

namespace Pushdown

namespace Utf8

/-! ### Encoding -/

/-- The one to four octets of a character. -/
def encodeChar (c : Char) : List Nat :=
  let n := c.toNat
  if n < 0x80 then [n]
  else if n < 0x800 then [0xC0 + n / 0x40, 0x80 + n % 0x40]
  else if n < 0x10000 then [0xE0 + n / 0x1000, 0x80 + n / 0x40 % 0x40, 0x80 + n % 0x40]
  else
    [0xF0 + n / 0x40000, 0x80 + n / 0x1000 % 0x40, 0x80 + n / 0x40 % 0x40, 0x80 + n % 0x40]

/-- The octets of a text. -/
def encode (s : Text) : List Nat := s.flatMap encodeChar

/-! ### Reading one character -/

/-- What stands at the front of an octet sequence. -/
inductive Reading where
  /-- A character that takes `width` octets. -/
  | char (c : Char) (width : Nat)
  /-- The first `width` octets belong to no character, whatever follows. -/
  | invalid (width : Nat)
  /-- All octets could begin a character, but the sequence ends inside it. -/
  | incomplete
  deriving DecidableEq, Repr

/-- Whether an octet continues a character. -/
def isTail (b : Nat) : Bool := 0x80 ≤ b && b ≤ 0xBF

/-- Whether the second octet `b` may follow the lead octet `a` of a three octet form: no character
below U+0800 and no surrogate takes three octets. -/
def isSecondOfThree (a b : Nat) : Bool :=
  if a = 0xE0 then 0xA0 ≤ b && b ≤ 0xBF
  else if a = 0xED then 0x80 ≤ b && b ≤ 0x9F
  else isTail b

/-- Whether the second octet `b` may follow the lead octet `a` of a four octet form: no character
below U+10000 or above U+10FFFF takes four octets. -/
def isSecondOfFour (a b : Nat) : Bool :=
  if a = 0xF0 then 0x90 ≤ b && b ≤ 0xBF
  else if a = 0xF4 then 0x80 ≤ b && b ≤ 0x8F
  else isTail b

/-- Reads a two octet form. -/
def readTwo (a : Nat) : List Nat → Reading
  | [] => .incomplete
  | b :: _ => if isTail b then .char (Char.ofNat ((a - 0xC0) * 0x40 + (b - 0x80))) 2 else .invalid 1

/-- Reads a three octet form. -/
def readThree (a : Nat) : List Nat → Reading
  | [] => .incomplete
  | b :: rest =>
      if isSecondOfThree a b then
        match rest with
        | [] => .incomplete
        | c :: _ =>
            if isTail c then
              .char (Char.ofNat ((a - 0xE0) * 0x1000 + (b - 0x80) * 0x40 + (c - 0x80))) 3
            else .invalid 2
      else .invalid 1

/-- Reads a four octet form. -/
def readFour (a : Nat) : List Nat → Reading
  | [] => .incomplete
  | b :: rest =>
      if isSecondOfFour a b then
        match rest with
        | [] => .incomplete
        | c :: rest =>
            if isTail c then
              match rest with
              | [] => .incomplete
              | d :: _ =>
                  if isTail d then
                    .char (Char.ofNat ((a - 0xF0) * 0x40000 + (b - 0x80) * 0x1000 +
                      (c - 0x80) * 0x40 + (d - 0x80))) 4
                  else .invalid 3
            else .invalid 2
      else .invalid 1

/-- Reads the character whose lead octet is `a`. -/
def read (a : Nat) (rest : List Nat) : Reading :=
  if a < 0x80 then .char (Char.ofNat a) 1
  else if a < 0xC2 then .invalid 1
  else if a < 0xE0 then readTwo a rest
  else if a < 0xF0 then readThree a rest
  else if a < 0xF5 then readFour a rest
  else .invalid 1

/-! ### Decoding -/

/-- Where and how an octet sequence fails to be UTF-8. -/
inductive Fault where
  /-- From `index` on, `width` octets belong to no character. -/
  | invalid (width index : Nat)
  /-- The character that starts at `index` is cut off. -/
  | incomplete (index : Nat)
  deriving DecidableEq, Repr

/-- The description of a fault. -/
def Fault.message : Fault → Text
  | .invalid width index =>
      "invalid utf-8 sequence of ".toList ++ Text.ofNat width ++ " bytes from index ".toList ++
        Text.ofNat index
  | .incomplete index => "incomplete utf-8 byte sequence from index ".toList ++ Text.ofNat index

/-- Decodes from position `index`, of which `skip` octets are already read. -/
def decodeFrom : Nat → Nat → List Nat → Except Fault Text
  | _, _, [] => .ok []
  | index, skip + 1, _ :: rest => decodeFrom (index + 1) skip rest
  | index, 0, a :: rest =>
      match read a rest with
      | .char c width => (decodeFrom (index + 1) (width - 1) rest).map (c :: ·)
      | .invalid width => .error (.invalid width index)
      | .incomplete => .error (.incomplete index)

/-- The text of an octet sequence, or its first fault. -/
def decode (bytes : List Nat) : Except Fault Text := decodeFrom 0 0 bytes

/-- Decodes with replacement; `skip` octets are already read. -/
def decodeLossyFrom : Nat → List Nat → Text
  | _, [] => []
  | skip + 1, _ :: rest => decodeLossyFrom skip rest
  | 0, a :: rest =>
      match read a rest with
      | .char c width => c :: decodeLossyFrom (width - 1) rest
      | .invalid width => '\uFFFD' :: decodeLossyFrom (width - 1) rest
      | .incomplete => ['\uFFFD']

/-- The text of an octet sequence with U+FFFD in place of every fault. -/
def decodeLossy (bytes : List Nat) : Text := decodeLossyFrom 0 bytes

/-! ### Decoding inverts encoding -/

theorem toNat_lt (c : Char) : c.toNat < 0x110000 := by
  rcases c.valid with h | h
  · exact Nat.lt_trans h (by decide)
  · exact h.2

theorem not_surrogate (c : Char) : c.toNat < 0xD800 ∨ 0xDFFF < c.toNat := by
  rcases c.valid with h | h
  · exact Or.inl h
  · exact Or.inr h.1

theorem ofNat_toNat_of_eq {c : Char} {n : Nat} (h : n = c.toNat) : Char.ofNat n = c := by
  rw [h, Char.ofNat_toNat]

/-- The lead octet of a character, read in front of anything, gives the character back. -/
theorem read_encodeChar (c : Char) (rest : List Nat) :
    ∃ a tail, encodeChar c = a :: tail ∧
      read a (tail ++ rest) = .char c (tail.length + 1) := by
  have hlt := toNat_lt c
  have hsur := not_surrogate c
  unfold encodeChar
  by_cases h1 : c.toNat < 0x80
  · refine ⟨c.toNat, [], by simp [h1], ?_⟩
    simp [read, h1]
  by_cases h2 : c.toNat < 0x800
  · refine ⟨_, _, by simp only [h1, h2, if_false, if_true]; rfl, ?_⟩
    have ha1 : ¬ 0xC0 + c.toNat / 0x40 < 0x80 := by omega
    have ha2 : ¬ 0xC0 + c.toNat / 0x40 < 0xC2 := by omega
    have ha3 : 0xC0 + c.toNat / 0x40 < 0xE0 := by omega
    have ht : isTail (0x80 + c.toNat % 0x40) = true := by simp [isTail]; omega
    simp only [read, ha1, ha2, ha3, if_false, if_true, List.cons_append, readTwo, ht]
    simp only [Reading.char.injEq, List.length_cons, List.length_nil, and_true]
    refine ofNat_toNat_of_eq ?_
    omega
  by_cases h3 : c.toNat < 0x10000
  · refine ⟨_, _, by simp only [h1, h2, h3, if_false, if_true]; rfl, ?_⟩
    have ha1 : ¬ 0xE0 + c.toNat / 0x1000 < 0x80 := by omega
    have ha2 : ¬ 0xE0 + c.toNat / 0x1000 < 0xC2 := by omega
    have ha3 : ¬ 0xE0 + c.toNat / 0x1000 < 0xE0 := by omega
    have ha4 : 0xE0 + c.toNat / 0x1000 < 0xF0 := by omega
    have hs : isSecondOfThree (0xE0 + c.toNat / 0x1000) (0x80 + c.toNat / 0x40 % 0x40) = true := by
      unfold isSecondOfThree
      split
      · simp; omega
      · split
        · simp; omega
        · simp [isTail]; omega
    have ht : isTail (0x80 + c.toNat % 0x40) = true := by simp [isTail]; omega
    simp only [read, ha1, ha2, ha3, ha4, if_false, if_true, List.cons_append, readThree, hs, ht]
    simp only [Reading.char.injEq, List.length_cons, List.length_nil, and_true]
    refine ofNat_toNat_of_eq ?_
    omega
  · refine ⟨_, _, by simp only [h1, h2, h3, if_false]; rfl, ?_⟩
    have ha1 : ¬ 0xF0 + c.toNat / 0x40000 < 0x80 := by omega
    have ha2 : ¬ 0xF0 + c.toNat / 0x40000 < 0xC2 := by omega
    have ha3 : ¬ 0xF0 + c.toNat / 0x40000 < 0xE0 := by omega
    have ha4 : ¬ 0xF0 + c.toNat / 0x40000 < 0xF0 := by omega
    have ha5 : 0xF0 + c.toNat / 0x40000 < 0xF5 := by omega
    have hs : isSecondOfFour (0xF0 + c.toNat / 0x40000) (0x80 + c.toNat / 0x1000 % 0x40) =
        true := by
      unfold isSecondOfFour
      split
      · simp; omega
      · split
        · simp; omega
        · simp [isTail]; omega
    have ht1 : isTail (0x80 + c.toNat / 0x40 % 0x40) = true := by simp [isTail]; omega
    have ht2 : isTail (0x80 + c.toNat % 0x40) = true := by simp [isTail]; omega
    simp only [read, ha1, ha2, ha3, ha4, ha5, if_false, if_true, List.cons_append, readFour, hs,
      ht1, ht2]
    simp only [Reading.char.injEq, List.length_cons, List.length_nil, and_true]
    refine ofNat_toNat_of_eq ?_
    omega

theorem decodeFrom_append (index : Nat) (tail rest : List Nat) :
    decodeFrom index tail.length (tail ++ rest) = decodeFrom (index + tail.length) 0 rest := by
  induction tail generalizing index with
  | nil => rfl
  | cons a tail ih =>
      simp only [List.length_cons, List.cons_append, decodeFrom]
      rw [ih, Nat.add_assoc, Nat.add_comm 1]

theorem decodeLossyFrom_append (tail rest : List Nat) :
    decodeLossyFrom tail.length (tail ++ rest) = decodeLossyFrom 0 rest := by
  induction tail with
  | nil => rfl
  | cons a tail ih => simp only [List.length_cons, List.cons_append, decodeLossyFrom, ih]

theorem decodeFrom_encode (index : Nat) (s : Text) : decodeFrom index 0 (encode s) = .ok s := by
  induction s generalizing index with
  | nil => rfl
  | cons c s ih =>
      obtain ⟨a, tail, hc, hr⟩ := read_encodeChar c (encode s)
      simp only [encode, List.flatMap_cons, hc, List.cons_append, decodeFrom] at hr ih ⊢
      rw [hr]
      simp only [Nat.add_sub_cancel, decodeFrom_append, ih, Except.map]

/-- Decoding inverts encoding. -/
theorem decode_encode (s : Text) : decode (encode s) = .ok s := decodeFrom_encode 0 s

/-- Decoding with replacement replaces nothing in encoded text. -/
theorem decodeLossy_encode_append (s : Text) (rest : List Nat) :
    decodeLossyFrom 0 (encode s ++ rest) = s ++ decodeLossyFrom 0 rest := by
  induction s with
  | nil => rfl
  | cons c s ih =>
      obtain ⟨a, tail, hc, hr⟩ := read_encodeChar c (encode s ++ rest)
      have hsplit : encode (c :: s) ++ rest = a :: (tail ++ (encode s ++ rest)) := by
        simp [encode, hc]
      rw [hsplit]
      simp only [decodeLossyFrom, hr, Nat.add_sub_cancel, decodeLossyFrom_append, ih,
        List.cons_append]

theorem decodeLossy_encode (s : Text) : decodeLossy (encode s) = s := by
  have h := decodeLossy_encode_append s []
  simpa [decodeLossy, decodeLossyFrom] using h

end Utf8

end Pushdown
