/-
**Form encoding.**

A form is a sequence of name and value pairs, written `name=value` and joined by `&`.  Inside names
and values a space is written `+`, ASCII letters and digits and the signs `*`, `-`, `.`, `_` are
written as they are, and every other character is percent-encoded.  Reading never fails: a piece
without `=` is a name with an empty value, an empty piece is no pair, and octets that are not UTF-8
are replaced.

Main definitions:

* `Form.encode`, `Form.decode` — one name or value;
* `Form.writePairs`, `Form.readPairs` — a whole form.

Main results:

* `Form.decode_encode` — decoding inverts encoding;
* `Form.encode_separators` — an encoded text holds neither of the separators `&`, `=`, nor `#`.
-/

import Pushdown.Codec.Percent

set_option autoImplicit false

namespace Pushdown

namespace Form

/-- The characters that stand for themselves. -/
def isPlain (c : Char) : Bool :=
  Percent.isAsciiAlphanum c || c = '*' || c = '-' || c = '.' || c = '_'

/-- One character of a name or value. -/
def encodeChar (c : Char) : Text :=
  if c = ' ' then ['+'] else if isPlain c then [c] else Percent.escapeChar c

/-- A name or value in written form. -/
def encode (s : Text) : Text := s.flatMap encodeChar

/-- The name or value a written form stands for. -/
def decode (s : Text) : Text :=
  Utf8.decodeLossy (Percent.octets (s.map fun c => if c = '+' then ' ' else c))

/-- The pairs of a form in written form. -/
def writePairs (pairs : List (Text × Text)) : Text :=
  Text.joinWith ['&'] (pairs.map fun p => encode p.1 ++ '=' :: encode p.2)

/-- The pair a piece between two `&` stands for. -/
def readPair (piece : Text) : Text × Text :=
  match Text.splitFirst? '=' piece with
  | some (name, value) => (decode name, decode value)
  | none => (decode piece, [])

/-- The pairs of a written form. -/
def readPairs (s : Text) : List (Text × Text) :=
  ((Text.splitAll '&' s).filter fun piece => !piece.isEmpty).map readPair

/-! ### Laws -/

/-- The characters an encoding is written with. -/
def isWritten (c : Char) : Bool := isPlain c || c = '+' || c = '%'

theorem isWritten_escapeOctet {b : Nat} (h : b < 256) :
    ∀ c ∈ Percent.escapeOctet b, isWritten c = true := by
  have digit : ∀ k : Fin 16, isWritten (Text.hexDigit k.val) = true := by decide
  intro c hc
  simp only [Percent.escapeOctet, List.mem_cons, List.not_mem_nil, or_false] at hc
  rcases hc with rfl | rfl | rfl
  · decide
  · exact digit ⟨b / 16, by omega⟩
  · exact digit ⟨b % 16, by omega⟩

theorem isWritten_encodeChar (d : Char) : ∀ c ∈ encodeChar d, isWritten c = true := by
  intro c hc
  unfold encodeChar at hc
  split at hc
  · simp only [List.mem_singleton] at hc
    subst hc
    decide
  · split at hc
    · next h =>
        simp only [List.mem_singleton] at hc
        subst hc
        simp [isWritten, h]
    · obtain ⟨b, hb, hcb⟩ := List.mem_flatMap.1 hc
      exact isWritten_escapeOctet (Percent.encodeChar_lt d b hb) c hcb

theorem isWritten_encode (s : Text) : ∀ c ∈ encode s, isWritten c = true := by
  intro c hc
  obtain ⟨d, _, hcd⟩ := List.mem_flatMap.1 hc
  exact isWritten_encodeChar d c hcd

/-- An encoded text holds no separator of the form and does not end it. -/
theorem encode_separators (s : Text) : '&' ∉ encode s ∧ '=' ∉ encode s ∧ '#' ∉ encode s :=
  ⟨fun h => absurd (isWritten_encode s _ h) (by decide),
    fun h => absurd (isWritten_encode s _ h) (by decide),
    fun h => absurd (isWritten_encode s _ h) (by decide)⟩

/-- A text without a plus sign is read as it is. -/
theorem map_plus_of_not_mem {s : Text} (h : '+' ∉ s) :
    (s.map fun c => if c = '+' then ' ' else c) = s := by
  conv => rhs; rw [← List.map_id s]
  refine List.map_congr_left fun c hc => ?_
  have hne : c ≠ '+' := by
    rintro rfl
    exact h hc
  simp [hne]

theorem octets_encodeChar_append (c : Char) (rest : Text) :
    Percent.octets ((encodeChar c).map (fun d => if d = '+' then ' ' else d) ++ rest) =
      Utf8.encodeChar c ++ Percent.octets rest := by
  unfold encodeChar
  split
  · next h =>
      subst h
      exact Percent.octets_cons_of_ne (by decide) rest
  · split
    · next h =>
        have hplus : c ≠ '+' := by
          rintro rfl
          exact absurd h (by decide)
        have hpercent : c ≠ '%' := by
          rintro rfl
          exact absurd h (by decide)
        simp only [List.map_cons, List.map_nil, hplus, if_false, List.cons_append,
          List.nil_append]
        exact Percent.octets_cons_of_ne hpercent rest
    · have hplus : '+' ∉ Percent.escapeChar c := by
        intro hd
        obtain ⟨b, hb, hdb⟩ := List.mem_flatMap.1 hd
        have digit : ∀ k : Fin 16, Text.hexDigit k.val ≠ '+' := by decide
        have hlt := Percent.encodeChar_lt c b hb
        simp only [Percent.escapeOctet, List.mem_cons, List.not_mem_nil, or_false] at hdb
        rcases hdb with h | h | h
        · exact absurd h (by decide)
        · exact digit ⟨b / 16, by omega⟩ h.symm
        · exact digit ⟨b % 16, by omega⟩ h.symm
      rw [map_plus_of_not_mem hplus, Percent.escapeChar]
      exact Percent.octets_flatMap_escapeOctet_append (Percent.encodeChar_lt c) rest

/-- Decoding inverts encoding. -/
theorem decode_encode (s : Text) : decode (encode s) = s := by
  have h : Percent.octets ((encode s).map fun d => if d = '+' then ' ' else d) =
      Utf8.encode s := by
    induction s with
    | nil => rfl
    | cons c s ih =>
        simp only [encode, Utf8.encode, List.flatMap_cons, List.map_append] at ih ⊢
        rw [octets_encodeChar_append, ih]
  rw [decode, h, Utf8.decodeLossy_encode]

end Form

end Pushdown
