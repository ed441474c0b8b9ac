/-
**Percent-encoding.**

A character that may stand for itself is written as it is; any other is written as its UTF-8 octets,
each as a percent sign and two upper case hexadecimal digits.  Decoding accepts digits of either
case and keeps a percent sign that no two hexadecimal digits follow.

Main definitions:

* `Percent.isUnreserved` — the characters written as they are: ASCII letters and digits, and
  the signs `-`, `_`, `.`, `~`;
* `Percent.encode` — the encoding of a text;
* `Percent.octets`, `Percent.decode` — the octets a text stands for, and their text if they are
  UTF-8.

Main results:

* `Percent.octets_encode_append` — decoding undoes encoding in front of any rest;
* `Percent.decode_encode` — decoding inverts encoding.
-/

import Pushdown.Codec.Utf8

set_option autoImplicit false

namespace Pushdown

namespace Percent

/-- ASCII letters and digits. -/
def isAsciiAlphanum (c : Char) : Bool :=
  ('a' ≤ c && c ≤ 'z') || ('A' ≤ c && c ≤ 'Z') || ('0' ≤ c && c ≤ '9')

/-- The characters that stand for themselves. -/
def isUnreserved (c : Char) : Bool :=
  isAsciiAlphanum c || c = '-' || c = '_' || c = '.' || c = '~'

/-- An octet as a percent sign and two hexadecimal digits. -/
def escapeOctet (b : Nat) : Text := ['%', Text.hexDigit (b / 16), Text.hexDigit (b % 16)]

/-- A character as its escaped octets. -/
def escapeChar (c : Char) : Text := (Utf8.encodeChar c).flatMap escapeOctet

/-- The encoding of a text: every character that is not unreserved is escaped. -/
def encode (s : Text) : Text :=
  s.flatMap fun c => if isUnreserved c then [c] else escapeChar c

/-- The value of two hexadecimal digits. -/
def octet? (h l : Char) : Option Nat :=
  match Text.hexValue? h, Text.hexValue? l with
  | some hi, some lo => some (hi * 16 + lo)
  | _, _ => none

/-- The octets a text stands for: an escape is one octet, every other character its UTF-8. -/
def octets : Text → List Nat
  | [] => []
  | [c] => Utf8.encodeChar c
  | [c, d] => Utf8.encodeChar c ++ Utf8.encodeChar d
  | c :: h :: l :: rest =>
      if c = '%' then
        match octet? h l with
        | some b => b :: octets rest
        | none => Utf8.encodeChar c ++ octets (h :: l :: rest)
      else Utf8.encodeChar c ++ octets (h :: l :: rest)

/-- The text an encoding stands for, or the first fault of its octets. -/
def decode (s : Text) : Except Utf8.Fault Text := Utf8.decode (octets s)

/-! ### Decoding inverts encoding -/

theorem hexValue?_hexDigit {n : Nat} (h : n < 16) : Text.hexValue? (Text.hexDigit n) = some n := by
  have : ∀ k : Fin 16, Text.hexValue? (Text.hexDigit k.val) = some k.val := by decide
  exact this ⟨n, h⟩

theorem octet?_hexDigit {b : Nat} (h : b < 256) :
    octet? (Text.hexDigit (b / 16)) (Text.hexDigit (b % 16)) = some b := by
  rw [octet?, hexValue?_hexDigit (by omega), hexValue?_hexDigit (by omega)]
  simp only [Option.some.injEq]
  omega

theorem octets_cons_of_ne {c : Char} (h : c ≠ '%') (rest : Text) :
    octets (c :: rest) = Utf8.encodeChar c ++ octets rest := by
  match rest with
  | [] => simp [octets]
  | [d] => simp [octets]
  | x :: y :: rest => simp [octets, h]

theorem octets_escapeOctet_append {b : Nat} (h : b < 256) (rest : Text) :
    octets (escapeOctet b ++ rest) = b :: octets rest := by
  simp [escapeOctet, octets, octet?_hexDigit h]

theorem encodeChar_lt (c : Char) : ∀ b ∈ Utf8.encodeChar c, b < 256 := by
  have hlt := Utf8.toNat_lt c
  intro b hb
  simp only [Utf8.encodeChar] at hb
  split at hb
  · simp only [List.mem_cons, List.not_mem_nil, or_false] at hb
    omega
  · split at hb
    · simp only [List.mem_cons, List.not_mem_nil, or_false] at hb
      omega
    · split at hb
      · simp only [List.mem_cons, List.not_mem_nil, or_false] at hb
        omega
      · simp only [List.mem_cons, List.not_mem_nil, or_false] at hb
        omega

theorem octets_flatMap_escapeOctet_append {bytes : List Nat} (h : ∀ b ∈ bytes, b < 256)
    (rest : Text) : octets (bytes.flatMap escapeOctet ++ rest) = bytes ++ octets rest := by
  induction bytes with
  | nil => rfl
  | cons b bytes ih =>
      simp only [List.flatMap_cons, List.append_assoc]
      rw [octets_escapeOctet_append (h b List.mem_cons_self),
        ih fun x hx => h x (List.mem_cons_of_mem _ hx), List.cons_append]

/-- Decoding undoes encoding in front of any rest. -/
theorem octets_encode_append (s rest : Text) :
    octets (encode s ++ rest) = Utf8.encode s ++ octets rest := by
  induction s with
  | nil => rfl
  | cons c s ih =>
      simp only [encode, Utf8.encode, List.flatMap_cons, List.append_assoc] at ih ⊢
      by_cases h : isUnreserved c = true
      · have hc : c ≠ '%' := by
          rintro rfl
          exact absurd h (by decide)
        simp only [h, if_true, List.cons_append, List.nil_append]
        rw [octets_cons_of_ne hc, ih]
      · simp only [h, if_false, Bool.false_eq_true]
        rw [escapeChar, octets_flatMap_escapeOctet_append (encodeChar_lt c), ih]

/-- Decoding inverts encoding. -/
theorem decode_encode (s : Text) : decode (encode s) = .ok s := by
  have h := octets_encode_append s []
  simp only [List.append_nil, octets] at h
  rw [decode, h, Utf8.decode_encode]

end Percent

end Pushdown
