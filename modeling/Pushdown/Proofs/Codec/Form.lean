/-
**Forms of pieces from several encoders.**

The pairs of a virtual table come from two encoders: parameters are form-encoded when a whole table
is written, and every other name and value is percent-encoded.  One reader understands both, because
neither encoder writes a character that means something between pairs.

Main definitions:

* `Percent.isWritten` — the characters that percent-encoding writes.

Main results:

* `Form.decode_percent`, `Form.decode_percent_colon` — the form reader undoes percent-encoding,
  also around a colon;
* `Form.readPairs_append_cons`, `Form.readPairs_joinWith` — the pairs of joined pieces are those of
  the pieces;
* `Form.readPairs_piece` — a piece with one separator of its own is one pair;
* `Form.readPairs_writePairs` — a written form reads back.
-/

import Pushdown.Codec.Form
import Pushdown.Proofs.Text.Splitting

set_option autoImplicit false

namespace Pushdown

namespace Percent

/-! ### What percent-encoding writes -/

/-- The characters that percent-encoding writes. -/
def isWritten (c : Char) : Bool := isUnreserved c || c = '%'

theorem isWritten_escapeOctet {b : Nat} (h : b < 256) :
    ∀ c ∈ escapeOctet b, isWritten c = true := by
  have digit : ∀ k : Fin 16, isWritten (Text.hexDigit k.val) = true := by decide
  intro c hc
  simp only [escapeOctet, List.mem_cons, List.not_mem_nil, or_false] at hc
  rcases hc with rfl | rfl | rfl
  · decide
  · exact digit ⟨b / 16, by omega⟩
  · exact digit ⟨b % 16, by omega⟩

theorem isWritten_escapeChar (d : Char) : ∀ c ∈ escapeChar d, isWritten c = true := by
  intro c hc
  obtain ⟨b, hb, hcb⟩ := List.mem_flatMap.1 hc
  exact isWritten_escapeOctet (encodeChar_lt d b hb) c hcb

theorem isWritten_encode (s : Text) : ∀ c ∈ encode s, isWritten c = true := by
  intro c hc
  obtain ⟨d, -, hcd⟩ := List.mem_flatMap.1 hc
  split at hcd
  · next hd =>
      simp only [List.mem_singleton] at hcd
      subst hcd
      simp [isWritten, hd]
  · exact isWritten_escapeChar d c hcd

/-- A character that percent-encoding does not write is not in an encoded text. -/
theorem not_mem_encode {c : Char} (hc : isWritten c = false) (s : Text) : c ∉ encode s := by
  intro h
  rw [isWritten_encode s c h] at hc
  exact absurd hc (by simp)

theorem not_mem_escapeChar {c : Char} (hc : isWritten c = false) (d : Char) :
    c ∉ escapeChar d := by
  intro h
  rw [isWritten_escapeChar d c h] at hc
  exact absurd hc (by simp)

/-- A text of unreserved characters is its own encoding. -/
theorem encode_eq_self {s : Text} (h : ∀ c ∈ s, isUnreserved c = true) : encode s = s := by
  induction s with
  | nil => rfl
  | cons c s ih =>
      have hrest := ih fun d hd => h d (List.mem_cons_of_mem _ hd)
      rw [encode] at hrest
      rw [encode, List.flatMap_cons, hrest, if_pos (h c List.mem_cons_self), List.singleton_append]

end Percent

namespace Form

/-! ### One name or value -/

/-- Without a plus sign the reader of forms reads octets as they are. -/
theorem decode_of_not_mem {s : Text} (h : '+' ∉ s) :
    decode s = Utf8.decodeLossy (Percent.octets s) := by
  rw [decode, map_plus_of_not_mem h]

/-- The form reader undoes percent-encoding. -/
theorem decode_percent (s : Text) : decode (Percent.encode s) = s := by
  have hoctets := Percent.octets_encode_append s []
  simp only [List.append_nil, Percent.octets] at hoctets
  rw [decode_of_not_mem (Percent.not_mem_encode (by decide) s), hoctets, Utf8.decodeLossy_encode]

/-- The form reader undoes percent-encoding around a colon. -/
theorem decode_percent_colon (a b : Text) :
    decode (Percent.encode a ++ ':' :: Percent.encode b) = a ++ ':' :: b := by
  have hplus : '+' ∉ Percent.encode a ++ ':' :: Percent.encode b :=
    Text.not_mem_append_cons (Percent.not_mem_encode (by decide) a) (by decide)
      (Percent.not_mem_encode (by decide) b)
  have hb := Percent.octets_encode_append b []
  simp only [List.append_nil, Percent.octets] at hb
  have hoctets : Percent.octets (Percent.encode a ++ ':' :: Percent.encode b) =
      Utf8.encode (a ++ ':' :: b) := by
    rw [Percent.octets_encode_append, Percent.octets_cons_of_ne (by decide), hb]
    simp [Utf8.encode]
  rw [decode_of_not_mem hplus, hoctets, Utf8.decodeLossy_encode]

/-- A text without plus and percent signs stands for itself. -/
theorem decode_of_plain {s : Text} (hplus : '+' ∉ s) (hpercent : '%' ∉ s) : decode s = s := by
  have hoctets : Percent.octets s = Utf8.encode s := by
    clear hplus
    induction s with
    | nil => rfl
    | cons c s ih =>
        simp only [List.mem_cons, not_or] at hpercent
        rw [Percent.octets_cons_of_ne (Ne.symm hpercent.1), ih hpercent.2]
        rfl
  rw [decode_of_not_mem hplus, hoctets, Utf8.decodeLossy_encode]

/-! ### Pairs -/

@[simp] theorem readPairs_nil : readPairs [] = [] := rfl

/-- The pairs of two forms with `&` between are the pairs of the one and of the other. -/
theorem readPairs_append_cons (a b : Text) :
    readPairs (a ++ '&' :: b) = readPairs a ++ readPairs b := by
  simp [readPairs, Text.splitAll_append_cons]

theorem readPairs_joinWith (pieces : List Text) :
    readPairs (Text.joinWith ['&'] pieces) = pieces.flatMap readPairs := by
  induction pieces with
  | nil => rfl
  | cons piece pieces ih =>
      by_cases h : pieces = []
      · subst h
        simp [Text.joinWith]
      · rw [Text.joinWith_cons _ _ h, List.append_assoc, List.singleton_append,
          readPairs_append_cons, ih, List.flatMap_cons]

/-- A piece `name=value` is one pair. -/
theorem readPairs_piece {name value : Text} (hname : '=' ∉ name)
    (hpiece : '&' ∉ name ++ '=' :: value) :
    readPairs (name ++ '=' :: value) = [(decode name, decode value)] := by
  have hne : (name ++ '=' :: value).isEmpty = false := by cases name <;> rfl
  rw [readPairs, Text.splitAll_of_not_mem hpiece]
  simp [hne, readPair, Text.splitFirst?_append hname]

/-- A written form reads back. -/
theorem readPairs_writePairs (pairs : List (Text × Text)) :
    readPairs (writePairs pairs) = pairs := by
  rw [writePairs, readPairs_joinWith]
  induction pairs with
  | nil => rfl
  | cons pair pairs ih =>
      obtain ⟨hamp, heq, -⟩ := encode_separators pair.1
      have hpiece : '&' ∉ encode pair.1 ++ '=' :: encode pair.2 :=
        Text.not_mem_append_cons hamp (by decide) (encode_separators pair.2).1
      rw [List.map_cons, List.flatMap_cons, ih, readPairs_piece heq hpiece, decode_encode,
        decode_encode, List.singleton_append]

end Form

end Pushdown
