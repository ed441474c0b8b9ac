/-
**Text as a list of characters.**

Every rule of this library works on text one character at a time, so text is the list of its
Unicode scalar values and each operation is a structural recursion on that list.  Strings occur
only where a program reads its arguments and prints its answers.

Main definitions:

* `Text.splitFirst?`, `Text.splitAll`, `Text.splitWhere` — cutting at the first, or at every,
  separator;
* `Text.joinWith` — the pieces with a separator between them;
* `Text.isInfix`, `Text.replaceAll` — searching for, and replacing, a fixed text;
* `Text.toLower`, `Text.toUpper`, `Text.eqIgnoreCase` — case in the ASCII range only;
* `Text.ofNat` — a number in decimal digits.

Main results:

* `Text.splitFirst?_eq_none_iff` — the split fails exactly when the separator does not occur;
* `Text.eq_append_of_splitFirst?` — the two halves and the separator are the whole text, and the
  first half does not hold the separator.
-/

set_option autoImplicit false

namespace Pushdown

/-- Text as the list of its characters. -/
abbrev Text := List Char

namespace Text

/-! ### Cutting -/

/-- The text before and after the first `sep`, or nothing when `sep` does not occur. -/
def splitFirst? (sep : Char) : Text → Option (Text × Text)
  | [] => none
  | c :: rest =>
      if c = sep then some ([], rest)
      else (splitFirst? sep rest).map fun halves => (c :: halves.1, halves.2)

/-- The first half of a split, or the whole text. -/
def before (sep : Char) (s : Text) : Text :=
  match splitFirst? sep s with
  | some (head, _) => head
  | none => s

/-- The pieces between the characters of a class, one more than there are such characters. -/
def splitWhere (isSep : Char → Bool) : Text → List Text
  | [] => [[]]
  | c :: rest =>
      if isSep c then [] :: splitWhere isSep rest
      else
        match splitWhere isSep rest with
        | [] => [[c]]
        | piece :: pieces => (c :: piece) :: pieces

/-- The pieces between the occurrences of one character. -/
def splitAll (sep : Char) (s : Text) : List Text := splitWhere (fun c => decide (c = sep)) s

theorem splitFirst?_eq_none_iff {sep : Char} {s : Text} :
    splitFirst? sep s = none ↔ sep ∉ s := by
  induction s with
  | nil => simp [splitFirst?]
  | cons c rest ih =>
      by_cases h : c = sep
      · simp [splitFirst?, h]
      · simp [splitFirst?, h, ih, Ne.symm h]

theorem eq_append_of_splitFirst? {sep : Char} {s head tail : Text}
    (h : splitFirst? sep s = some (head, tail)) : s = head ++ sep :: tail ∧ sep ∉ head := by
  induction s generalizing head with
  | nil => simp [splitFirst?] at h
  | cons c rest ih =>
      by_cases hc : c = sep
      · simp [splitFirst?, hc] at h
        simp [h, hc]
      · simp only [splitFirst?, hc, if_false, Option.map_eq_some_iff] at h
        obtain ⟨⟨a, b⟩, hab, hcons⟩ := h
        simp only [Prod.mk.injEq] at hcons
        obtain ⟨rfl, rfl⟩ := hcons
        obtain ⟨hrest, hnot⟩ := ih hab
        exact ⟨by simp [hrest], by simp [hnot, Ne.symm hc]⟩

/-- A text without the separator in front of a separator is the first half. -/
theorem splitFirst?_append {sep : Char} {head : Text} (h : sep ∉ head) (tail : Text) :
    splitFirst? sep (head ++ sep :: tail) = some (head, tail) := by
  induction head with
  | nil => simp [splitFirst?]
  | cons c rest ih =>
      simp only [List.mem_cons, not_or] at h
      simp [splitFirst?, Ne.symm h.1, ih h.2]

/-! ### Joining and replacing -/

/-- The pieces one after the other with `sep` between neighbours. -/
def joinWith (sep : Text) : List Text → Text
  | [] => []
  | [piece] => piece
  | piece :: pieces => piece ++ sep ++ joinWith sep pieces

/-- Whether `needle` occurs anywhere in the text. -/
def isInfix (needle : Text) : Text → Bool
  | [] => needle.isEmpty
  | c :: rest => needle.isPrefixOf (c :: rest) || isInfix needle rest

/-- Replacement from the left; `skip` characters of the current occurrence are still to be
passed over. -/
def replaceFrom (needle replacement : Text) : Nat → Text → Text
  | _, [] => []
  | skip + 1, _ :: rest => replaceFrom needle replacement skip rest
  | 0, c :: rest =>
      if needle.isPrefixOf (c :: rest) then
        replacement ++ replaceFrom needle replacement (needle.length - 1) rest
      else c :: replaceFrom needle replacement 0 rest

/-- Every occurrence of the non-empty `needle`, taken from the left without overlap, becomes
`replacement`. -/
def replaceAll (needle replacement : Text) (s : Text) : Text :=
  replaceFrom needle replacement 0 s

/-- Every occurrence of one character becomes a text. -/
def replaceChar (c : Char) (replacement : Text) (s : Text) : Text :=
  s.flatMap fun d => if d = c then replacement else [d]

/-- The text after `lead`, if the text starts with it. -/
def dropPrefix? : Text → Text → Option Text
  | [], s => some s
  | _ :: _, [] => none
  | p :: ps, c :: rest => if p = c then dropPrefix? ps rest else none

/-- The text without the occurrences of `c` at its two ends. -/
def trimChar (c : Char) (s : Text) : Text :=
  ((s.dropWhile (· = c)).reverse.dropWhile (· = c)).reverse

/-- The text without the occurrences of `c` at its end. -/
def trimCharRight (c : Char) (s : Text) : Text :=
  (s.reverse.dropWhile (· = c)).reverse

/-! ### Case and digits -/

/-- Letters `A` to `Z` in lower case, all else unchanged. -/
def toLower (s : Text) : Text := s.map Char.toLower

/-- Letters `a` to `z` in upper case, all else unchanged. -/
def toUpper (s : Text) : Text := s.map Char.toUpper

/-- Equality up to the case of ASCII letters. -/
def eqIgnoreCase (a b : Text) : Bool := toLower a == toLower b

/-- The digits of `n` in front of `acc`, least digit last; `fuel` bounds their number. -/
def digitsFrom : Nat → Nat → Text → Text
  | 0, _, acc => acc
  | fuel + 1, n, acc =>
      let acc := Char.ofNat (48 + n % 10) :: acc
      if n < 10 then acc else digitsFrom fuel (n / 10) acc

/-- A natural number in decimal digits without leading zeros. -/
def ofNat (n : Nat) : Text := digitsFrom (n.log2 + 1) n []

/-- The value of a hexadecimal digit of either case. -/
def hexValue? (c : Char) : Option Nat :=
  if '0' ≤ c ∧ c ≤ '9' then some (c.toNat - 48)
  else if 'a' ≤ c ∧ c ≤ 'f' then some (c.toNat - 87)
  else if 'A' ≤ c ∧ c ≤ 'F' then some (c.toNat - 55)
  else none

/-- The hexadecimal digit of a value below sixteen, letters in upper case. -/
def hexDigit (n : Nat) : Char := Char.ofNat (if n < 10 then 48 + n else 55 + n)

/-! ### Order -/

/-- Lexicographic order by scalar value, which is also the order of the UTF-8 bytes. -/
def precedes : Text → Text → Bool
  | _, [] => false
  | [], _ :: _ => true
  | a :: as, b :: bs => if a = b then precedes as bs else decide (a < b)

theorem precedes_irrefl (s : Text) : precedes s s = false := by
  induction s with
  | nil => rfl
  | cons c rest ih => simp [precedes, ih]

theorem precedes_trans {a b c : Text} (hab : precedes a b = true) (hbc : precedes b c = true) :
    precedes a c = true := by
  induction a generalizing b c with
  | nil =>
      cases c with
      | nil => cases b <;> simp [precedes] at hbc
      | cons z zs => rfl
  | cons x xs ih =>
      cases b with
      | nil => simp [precedes] at hab
      | cons y ys =>
          cases c with
          | nil => simp [precedes] at hbc
          | cons z zs =>
              by_cases hxy : x = y
              · subst hxy
                by_cases hxz : x = z
                · subst hxz
                  simp only [precedes, if_true] at hab hbc ⊢
                  exact ih hab hbc
                · simp only [precedes, hxz, if_false] at hbc ⊢
                  exact hbc
              · by_cases hyz : y = z
                · subst hyz
                  simp only [precedes, hxy, if_false] at hab ⊢
                  exact hab
                · simp only [precedes, hxy, hyz, if_false, decide_eq_true_eq] at hab hbc
                  have hxz : x < z := Nat.lt_trans hab hbc
                  have hne : x ≠ z := by
                    intro h
                    subst h
                    exact absurd hxz (Nat.lt_irrefl _)
                  simp only [precedes, hne, if_false, decide_eq_true_eq]
                  exact hxz

/-- Of two different texts one precedes the other. -/
theorem precedes_total {a b : Text} (h : a ≠ b) : precedes a b = true ∨ precedes b a = true := by
  induction a generalizing b with
  | nil =>
      cases b with
      | nil => exact absurd rfl h
      | cons y ys => exact Or.inl rfl
  | cons x xs ih =>
      cases b with
      | nil => exact Or.inr rfl
      | cons y ys =>
          by_cases hxy : x = y
          · subst hxy
            have hne : xs ≠ ys := fun e => h (by rw [e])
            simpa [precedes] using ih hne
          · have hne : x.toNat ≠ y.toNat := fun e => hxy (Char.toNat_inj.1 e)
            rcases Nat.lt_or_gt_of_ne hne with hlt | hgt
            · left
              simp only [precedes, hxy, if_false, decide_eq_true_eq]
              exact hlt
            · right
              simp only [precedes, Ne.symm hxy, if_false, decide_eq_true_eq]
              exact hgt

end Text

end Pushdown
