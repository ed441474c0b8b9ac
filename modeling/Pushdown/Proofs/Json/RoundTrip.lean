/-
**Reading back compact text.**

A value without numbers of double precision comes back from its compact text: its integers fit a
word, its strings are escaped character by character, its containers do not nest too deep and its
objects list their members by increasing name.  Every value that was read is of this kind, unless
there is a number of double precision in it.

Main definitions:

* `Json.hasDouble` — there is a number of double precision in a value;
* `Json.Exact` — a value whose compact text says all about it;
* `Json.Reads` — a reader takes a value from the front of any text.

Main results:

* `Json.readString_quote` — a string literal is read as its string;
* `Json.Exact.reads` — an exact value is read from its compact text in front of any rest;
* `Json.parse_compact` — **an exact value comes back from its compact text**;
* `Json.exact_of_parse` — a value that was read is exact or has a number of double precision.
-/

import Pushdown.Proofs.Json.Number
import Pushdown.Proofs.Text.Dictionary

set_option autoImplicit false

namespace Pushdown

namespace Json

/-! ### String literals -/

theorem stringFrom_plain {c : Char} (hquote : c ≠ '"') (hslash : c ≠ '\\')
    (hcontrol : ¬ c.toNat < 32) (s : Text) :
    stringFrom 0 (c :: s) = (stringFrom 0 s).map fun r => (c :: r.1, r.2) := by
  rw [stringFrom.eq_def]
  simp only [hquote, hslash, hcontrol, if_false]

theorem stringFrom_short {e x : Char} (h : shortEscape? e = some x) (s : Text) :
    stringFrom 0 ('\\' :: e :: s) = (stringFrom 0 s).map fun r => (x :: r.1, r.2) := by
  have hu : e ≠ 'u' := by
    rintro rfl
    exact absurd (h.symm.trans (by decide : shortEscape? 'u' = none)) (by simp)
  have hskip : stringFrom 1 (e :: s) = stringFrom 0 s := rfl
  have hslash : ('\\' : Char) ≠ '"' ∧ ¬ ('\\' : Char).toNat < 32 := by decide
  rw [stringFrom.eq_def]
  simp only [hslash, if_false, if_true]
  split
  · next heq => exact absurd heq (by simp)
  · next heq => exact absurd (List.cons.inj heq).1 hu
  · next heq =>
      obtain ⟨rfl, -⟩ := List.cons.inj heq
      simp only [h, hskip]

/-- The escape of a control character. -/
theorem stringFrom_control {n : Nat} (h : n < 32) (s : Text) :
    stringFrom 0
        (['\\', 'u', '0', '0', lowerHex (n / 16), lowerHex (n % 16)] ++ s) =
      (stringFrom 0 s).map fun r => (Char.ofNat n :: r.1, r.2) := by
  have hall : ∀ k : Fin 32,
      hexQuad? '0' '0' (lowerHex (k.val / 16)) (lowerHex (k.val % 16)) = some k.val := by decide
  have hquad := hall ⟨n, h⟩
  have hlow : ¬ (0xDC00 ≤ n ∧ n ≤ 0xDFFF) := by omega
  have hhigh : ¬ (0xD800 ≤ n ∧ n ≤ 0xDBFF) := by omega
  have hslash : ('\\' : Char) ≠ '"' ∧ ¬ ('\\' : Char).toNat < 32 := by decide
  simp only [List.cons_append, List.nil_append]
  rw [stringFrom.eq_def]
  simp only [hslash, if_false, if_true, hquad, if_neg hlow, if_neg hhigh]
  rfl

/-- An escaped character is read as the character. -/
theorem stringFrom_escape (c : Char) (s : Text) :
    stringFrom 0 (escape c ++ s) = (stringFrom 0 s).map fun r => (c :: r.1, r.2) := by
  have hself (n : Nat) (hc : c.toNat = n) : c = Char.ofNat n := by
    rw [← hc, Char.ofNat_toNat]
  by_cases hquote : c = '"'
  · subst hquote
    exact stringFrom_short (by decide) s
  by_cases hslash : c = '\\'
  · subst hslash
    exact stringFrom_short (by decide) s
  by_cases hline : c = '\n'
  · subst hline
    exact stringFrom_short (by decide) s
  by_cases hreturn : c = '\r'
  · subst hreturn
    exact stringFrom_short (by decide) s
  by_cases htab : c = '\t'
  · subst htab
    exact stringFrom_short (by decide) s
  by_cases hback : c.toNat = 8
  · obtain rfl := hself 8 hback
    exact stringFrom_short (by decide) s
  by_cases hfeed : c.toNat = 12
  · obtain rfl := hself 12 hfeed
    exact stringFrom_short (by decide) s
  by_cases hcontrol : c.toNat < 32
  · have hescape : escape c =
        ['\\', 'u', '0', '0', lowerHex (c.toNat / 16), lowerHex (c.toNat % 16)] := by
      simp [escape, hquote, hslash, hline, hreturn, htab, hback, hfeed, hcontrol]
    rw [hescape, stringFrom_control hcontrol, Char.ofNat_toNat]
  · have hescape : escape c = [c] := by
      simp [escape, hquote, hslash, hline, hreturn, htab, hback, hfeed, hcontrol]
    rw [hescape, List.singleton_append, stringFrom_plain hquote hslash hcontrol]

/-- A string literal is read as its string, behind its opening quote. -/
theorem readString_quote (name rest : Text) :
    readString (name.flatMap escape ++ '"' :: rest) = .ok (name, rest) := by
  rw [readString]
  induction name with
  | nil => rfl
  | cons c name ih =>
      rw [List.flatMap_cons, List.append_assoc, stringFrom_escape, ih]
      rfl

/-! ### Exact values -/

mutual

/-- Whether there is a number of double precision in a value. -/
def hasDouble : Json → Bool
  | double _ => true
  | array items => itemsHaveDouble items
  | object members => membersHaveDouble members
  | _ => false

/-- Whether there is a number of double precision in a list of items. -/
def itemsHaveDouble : List Json → Bool
  | [] => false
  | item :: rest => hasDouble item || itemsHaveDouble rest

/-- Whether there is a number of double precision in a list of members. -/
def membersHaveDouble : List (Text × Json) → Bool
  | [] => false
  | (_, value) :: rest => hasDouble value || membersHaveDouble rest

end

theorem itemsHaveDouble_eq_false_iff {items : List Json} :
    itemsHaveDouble items = false ↔ ∀ item ∈ items, item.hasDouble = false := by
  induction items with
  | nil => simp [itemsHaveDouble]
  | cons item items ih => simp [itemsHaveDouble, ih]

theorem membersHaveDouble_eq_false_iff {members : List (Text × Json)} :
    membersHaveDouble members = false ↔ ∀ m ∈ members, m.2.hasDouble = false := by
  induction members with
  | nil => simp [membersHaveDouble]
  | cons m members ih => simp [membersHaveDouble, ih]

/-- A value whose compact text says all about it: its integers fit a word, its objects list their
members by increasing name, and its containers nest at most `depth` deep. -/
inductive Exact : Nat → Json → Prop
  | null (depth : Nat) : Exact depth null
  | bool (depth : Nat) (b : Bool) : Exact depth (bool b)
  | integer (depth : Nat) {n : Int} (hn : IsWord n) : Exact depth (integer n)
  | string (depth : Nat) (s : Text) : Exact depth (string s)
  | array {depth : Nat} {items : List Json} (hitems : ∀ item ∈ items, Exact depth item) :
      Exact (depth + 1) (array items)
  | object {depth : Nat} {members : List (Text × Json)}
      (hnames : members.Pairwise fun a b => Text.precedes a.1 b.1 = true)
      (hmembers : ∀ m ∈ members, Exact depth m.2) : Exact (depth + 1) (object members)

/-! ### Heads of values -/

theorem skipSpace_cons {c : Char} (hc : isSpace c = false) (s : Text) :
    skipSpace (c :: s) = c :: s := by simp [skipSpace, hc]

theorem endsNumber_cons {c : Char} (hdigit : isDigit c = false)
    (hsign : c ≠ '.' ∧ c ≠ 'e' ∧ c ≠ 'E') (s : Text) : EndsNumber (c :: s) := by
  intro d hd
  obtain rfl : c = d := Option.some.inj hd
  exact ⟨hdigit, hsign⟩

/-- An integer starts with a digit or a sign. -/
theorem exists_integerText (n : Int) (hn : IsWord n) :
    ∃ c s, integerText n = c :: s ∧ (isDigit c = true ∨ c = '-') := by
  obtain ⟨hlow, hhigh⟩ := hn
  have hfit : n.natAbs ≤ maxSignificand := by
    rw [maxSignificand]
    omega
  obtain ⟨c, ds, hdigits, hdigit, -⟩ := wholeDigits_ofNat hfit
  unfold integerText
  split
  · exact ⟨'-', _, rfl, Or.inr rfl⟩
  · exact ⟨c, ds, hdigits, Or.inl hdigit⟩

theorem ne_of_starts_number {c d : Char} (hc : isDigit c = true ∨ c = '-')
    (hd : isDigit d = false ∧ d ≠ '-') : c ≠ d := by
  rintro rfl
  rcases hc with hc | hc
  · rw [hd.1] at hc
    exact absurd hc (by simp)
  · exact hd.2 hc

theorem not_isSpace_of_starts_number {c : Char} (hc : isDigit c = true ∨ c = '-') :
    isSpace c = false := by
  have hne := fun d hd => ne_of_starts_number (d := d) hc hd
  simp [isSpace, hne ' ' (by decide), hne '\n' (by decide), hne '\t' (by decide),
    hne '\r' (by decide)]

/-- The text of an exact value does not start with a blank and does not close an array. -/
theorem Exact.head {depth : Nat} {b : Json} (h : Exact depth b) :
    ∃ c s, b.compact = c :: s ∧ isSpace c = false ∧ c ≠ ']' := by
  cases h with
  | null => exact ⟨'n', _, rfl, by decide, by decide⟩
  | bool _ b =>
      cases b with
      | true => exact ⟨'t', _, rfl, by decide, by decide⟩
      | false => exact ⟨'f', _, rfl, by decide, by decide⟩
  | integer _ hn =>
      obtain ⟨c, s, hs, hc⟩ := exists_integerText _ hn
      exact ⟨c, s, hs, not_isSpace_of_starts_number hc, ne_of_starts_number hc (by decide)⟩
  | string _ s => exact ⟨'"', _, rfl, by decide, by decide⟩
  | array => exact ⟨'[', _, rfl, by decide, by decide⟩
  | object => exact ⟨'\x7b', _, rfl, by decide, by decide⟩

/-! ### Containers -/

/-- A reader takes a value from the front of any text. -/
def Reads (item : Reader Json) (b : Json) : Prop :=
  ∀ rest, EndsNumber rest → item (b.compact ++ rest) = .ok (b, rest)

theorem compactItems_cons (item : Json) {rest : List Json} (h : rest ≠ []) :
    compactItems (item :: rest) = item.compact ++ ',' :: compactItems rest := by
  cases rest with
  | nil => exact absurd rfl h
  | cons next rest => rfl

theorem compactMembers_cons (name : Text) (value : Json) {rest : List (Text × Json)}
    (h : rest ≠ []) :
    compactMembers ((name, value) :: rest) =
      quote name ++ ':' :: value.compact ++ ',' :: compactMembers rest := by
  cases rest with
  | nil => exact absurd rfl h
  | cons next rest => rfl

theorem length_le_compactItems (items : List Json) :
    items.length ≤ (compactItems items).length + 1 := by
  induction items with
  | nil => exact Nat.zero_le _
  | cons item items ih =>
      by_cases hnil : items = []
      · rw [hnil]
        exact Nat.le_add_left 1 _
      · rw [compactItems_cons item hnil]
        simp only [List.length_cons, List.length_append]
        omega

theorem length_le_compactMembers (members : List (Text × Json)) :
    members.length ≤ (compactMembers members).length + 1 := by
  induction members with
  | nil => exact Nat.zero_le _
  | cons m members ih =>
      by_cases hnil : members = []
      · rw [hnil]
        exact Nat.le_add_left 1 _
      · rw [compactMembers_cons m.1 m.2 hnil]
        simp only [List.length_cons, List.length_append]
        omega

/-- Items are read one by one up to the closing bracket. -/
theorem readItems_compact {item : Reader Json} {items : List Json} {fuel : Nat}
    (hne : items ≠ []) (hitems : ∀ b ∈ items, Reads item b) (hfuel : items.length ≤ fuel)
    (rest : Text) :
    readItems item fuel (compactItems items ++ ']' :: rest) = .ok (items, rest) := by
  induction items generalizing fuel with
  | nil => exact absurd rfl hne
  | cons b items ih =>
      obtain ⟨fuel, rfl⟩ : ∃ k, fuel = k + 1 :=
        Nat.exists_eq_succ_of_ne_zero (Nat.ne_of_gt (Nat.lt_of_lt_of_le (Nat.succ_pos _) hfuel))
      have hb := hitems b List.mem_cons_self
      rw [readItems]
      by_cases hnil : items = []
      · subst hnil
        rw [compactItems, hb _ (endsNumber_cons (by decide) (by decide) _)]
        simp only [skipSpace_cons (c := ']') (by decide)]
      · rw [compactItems_cons b hnil, List.append_assoc, List.cons_append,
          hb _ (endsNumber_cons (by decide) (by decide) _)]
        simp only [skipSpace_cons (c := ',') (by decide)]
        rw [ih hnil (fun x hx => hitems x (List.mem_cons_of_mem _ hx))
          (Nat.le_of_succ_le_succ hfuel)]
        rfl

/-- Members are read one by one up to the closing brace. -/
theorem readMembers_compact {item : Reader Json} {members : List (Text × Json)} {fuel : Nat}
    (hne : members ≠ []) (hmembers : ∀ m ∈ members, Reads item m.2)
    (hfuel : members.length ≤ fuel) (rest : Text) :
    readMembers item fuel (compactMembers members ++ '\x7d' :: rest) = .ok (members, rest) := by
  induction members generalizing fuel with
  | nil => exact absurd rfl hne
  | cons m members ih =>
      obtain ⟨fuel, rfl⟩ : ∃ k, fuel = k + 1 :=
        Nat.exists_eq_succ_of_ne_zero (Nat.ne_of_gt (Nat.lt_of_lt_of_le (Nat.succ_pos _) hfuel))
      obtain ⟨name, value⟩ := m
      have hvalue := hmembers _ List.mem_cons_self
      rw [readMembers]
      by_cases hnil : members = []
      · subst hnil
        simp only [compactMembers, quote, List.cons_append, List.append_assoc, List.nil_append,
          skipSpace_cons (c := '"') (by decide), readString_quote,
          skipSpace_cons (c := ':') (by decide),
          hvalue _ (endsNumber_cons (c := '\x7d') (by decide) (by decide) rest),
          skipSpace_cons (c := '\x7d') (by decide)]
      · have hrest := ih hnil (fun x hx => hmembers x (List.mem_cons_of_mem _ hx))
          (Nat.le_of_succ_le_succ hfuel)
        simp only [compactMembers_cons name value hnil, quote, List.cons_append,
          List.append_assoc, List.nil_append,
          skipSpace_cons (c := '"') (by decide), readString_quote,
          skipSpace_cons (c := ':') (by decide),
          hvalue _ (endsNumber_cons (c := ',') (by decide) (by decide) _),
          skipSpace_cons (c := ',') (by decide), hrest]
        rfl

theorem readArray_compact {item : Reader Json} {depth : Nat} {items : List Json}
    (hexact : ∀ b ∈ items, Exact depth b) (hitems : ∀ b ∈ items, Reads item b) (rest : Text) :
    readArray item (compactItems items ++ ']' :: rest) = .ok (array items, rest) := by
  unfold readArray
  cases items with
  | nil => rfl
  | cons b items =>
      obtain ⟨c, s, hhead, hspace, hclose⟩ := (hexact b List.mem_cons_self).head
      obtain ⟨s', hs'⟩ : ∃ s', compactItems (b :: items) ++ ']' :: rest = c :: s' := by
        by_cases hnil : items = []
        · exact ⟨_, by rw [hnil, compactItems, hhead, List.cons_append]⟩
        · exact ⟨_, by rw [compactItems_cons b hnil, hhead, List.cons_append, List.cons_append]⟩
      have hfuel : (b :: items).length ≤ (compactItems (b :: items) ++ ']' :: rest).length + 1 := by
        have h := length_le_compactItems (b :: items)
        rw [List.length_append]
        omega
      split
      · next heq =>
          rw [hs', skipSpace_cons hspace] at heq
          exact absurd (List.cons.inj heq).1 hclose
      · rw [readItems_compact (List.cons_ne_nil b items) hitems hfuel]
        rfl

theorem readObject_compact {item : Reader Json} {members : List (Text × Json)}
    (hnames : members.Pairwise fun a b => Text.precedes a.1 b.1 = true)
    (hmembers : ∀ m ∈ members, Reads item m.2) (rest : Text) :
    readObject item (compactMembers members ++ '\x7d' :: rest) = .ok (object members, rest) := by
  unfold readObject
  cases members with
  | nil => rfl
  | cons m members =>
      obtain ⟨s', hs'⟩ : ∃ s', compactMembers (m :: members) ++ '\x7d' :: rest = '"' :: s' := by
        by_cases hnil : members = []
        · exact ⟨_, by rw [hnil]; rfl⟩
        · exact ⟨_, by rw [compactMembers_cons m.1 m.2 hnil]; rfl⟩
      have hfuel : (m :: members).length ≤
          (compactMembers (m :: members) ++ '\x7d' :: rest).length + 1 := by
        have h := length_le_compactMembers (m :: members)
        rw [List.length_append]
        omega
      split
      · next heq =>
          rw [hs', skipSpace_cons (by decide)] at heq
          exact absurd (List.cons.inj heq).1 (by decide)
      · rw [readMembers_compact (List.cons_ne_nil m members) hmembers hfuel]
        simp only [Except.map, ofMembers, Dictionary.entries_ofList hnames]

/-! ### Values -/

theorem readValue_number {depth : Nat} {c : Char} (hc : isDigit c = true ∨ c = '-') (s : Text) :
    readValue depth (c :: s) = readNumber (c :: s) := by
  have hne := fun d hd => ne_of_starts_number (d := d) hc hd
  unfold readValue
  rw [skipSpace_cons (not_isSpace_of_starts_number hc)]
  simp only [hne 'n' (by decide), hne 't' (by decide), hne 'f' (by decide), hne '"' (by decide),
    hne '[' (by decide), hne '\x7b' (by decide), if_false]

/-- **An exact value is read from its compact text in front of any rest.** -/
theorem Exact.reads {depth : Nat} {b : Json} (h : Exact depth b) : Reads (readValue depth) b := by
  induction h with
  | null depth =>
      intro rest _
      cases depth <;> rfl
  | bool depth b =>
      intro rest _
      cases b <;> cases depth <;> rfl
  | integer depth hn =>
      intro rest hrest
      obtain ⟨c, s, hs, hc⟩ := exists_integerText _ hn
      have hread := readNumber_integerText hn hrest
      have hcompact : (Json.integer _).compact = c :: s := hs
      rw [hs, List.cons_append] at hread
      rw [hcompact, List.cons_append, readValue_number hc, hread]
  | string depth s =>
      intro rest _
      have hcompact : (Json.string s).compact ++ rest =
          '"' :: (s.flatMap escape ++ '"' :: rest) := by
        simp [compact, scalarText, quote]
      rw [hcompact]
      unfold readValue
      rw [skipSpace_cons (by decide)]
      simp only [readString_quote]
      rfl
  | @array depth items hitems ih =>
      intro rest _
      have hcompact : (Json.array items).compact ++ rest =
          '[' :: (compactItems items ++ ']' :: rest) := by
        simp [compact]
      rw [hcompact]
      unfold readValue
      rw [skipSpace_cons (by decide)]
      exact readArray_compact hitems ih rest
  | @object depth members hnames hmembers ih =>
      intro rest _
      have hcompact : (Json.object members).compact ++ rest =
          '\x7b' :: (compactMembers members ++ '\x7d' :: rest) := by
        simp [compact]
      rw [hcompact]
      unfold readValue
      rw [skipSpace_cons (by decide)]
      exact readObject_compact hnames ih rest

/-- **An exact value comes back from its compact text.** -/
theorem parse_compact {b : Json} (h : Exact depthLimit b) : parse b.compact = .ok b := by
  have hread := h.reads [] (fun c hc => absurd hc (by simp))
  rw [List.append_nil] at hread
  simp [parse, hread, skipSpace]

/-! ### Values that were read -/

section

variable {item : Reader Json} {depth : Nat}
  (hitem : ∀ {s b rest}, item s = .ok (b, rest) → b.hasDouble = false → Exact depth b)

include hitem

theorem exact_of_readItems {fuel : Nat} {s rest : Text} {items : List Json}
    (h : readItems item fuel s = .ok (items, rest)) :
    ∀ b ∈ items, b.hasDouble = false → Exact depth b := by
  induction fuel generalizing s items rest with
  | zero => exact absurd h (by simp [readItems])
  | succ fuel ih =>
      rw [readItems] at h
      split at h
      · exact absurd h (by simp)
      · next value rest₁ hvalue =>
          split at h
          · obtain ⟨rfl, -⟩ := Prod.mk.inj (Except.ok.inj h)
            intro b hb
            rw [List.mem_singleton.1 hb]
            exact hitem hvalue
          · obtain ⟨⟨more, rest₂⟩, hmore, hpair⟩ := Outcome.exists_of_map_eq_ok h
            obtain ⟨rfl, -⟩ := Prod.mk.inj hpair
            intro b hb
            rcases List.mem_cons.1 hb with rfl | hb
            · exact hitem hvalue
            · exact ih hmore b hb
          · exact absurd h (by simp)

theorem exact_of_readMembers {fuel : Nat} {s rest : Text} {members : List (Text × Json)}
    (h : readMembers item fuel s = .ok (members, rest)) :
    ∀ m ∈ members, m.2.hasDouble = false → Exact depth m.2 := by
  induction fuel generalizing s members rest with
  | zero => exact absurd h (by simp [readMembers])
  | succ fuel ih =>
      rw [readMembers] at h
      split at h
      · split at h
        · exact absurd h (by simp)
        · split at h
          · split at h
            · exact absurd h (by simp)
            · next value rest₁ hvalue =>
                split at h
                · obtain ⟨rfl, -⟩ := Prod.mk.inj (Except.ok.inj h)
                  intro m hm
                  rw [List.mem_singleton.1 hm]
                  exact hitem hvalue
                · obtain ⟨⟨more, rest₂⟩, hmore, hpair⟩ := Outcome.exists_of_map_eq_ok h
                  obtain ⟨rfl, -⟩ := Prod.mk.inj hpair
                  intro m hm
                  rcases List.mem_cons.1 hm with rfl | hm
                  · exact hitem hvalue
                  · exact ih hmore m hm
                · exact absurd h (by simp)
          · exact absurd h (by simp)
      · exact absurd h (by simp)

theorem exact_of_readArray {s rest : Text} {b : Json} (h : readArray item s = .ok (b, rest))
    (hb : b.hasDouble = false) : Exact (depth + 1) b := by
  unfold readArray at h
  split at h
  · obtain ⟨rfl, -⟩ := Prod.mk.inj (Except.ok.inj h)
    exact Exact.array (by simp)
  · obtain ⟨⟨items, rest₁⟩, hitems, hpair⟩ := Outcome.exists_of_map_eq_ok h
    obtain ⟨rfl, -⟩ := Prod.mk.inj hpair
    exact Exact.array fun x hx =>
      exact_of_readItems hitem hitems x hx (itemsHaveDouble_eq_false_iff.1 hb x hx)

theorem exact_of_readObject {s rest : Text} {b : Json} (h : readObject item s = .ok (b, rest))
    (hb : b.hasDouble = false) : Exact (depth + 1) b := by
  unfold readObject at h
  split at h
  · obtain ⟨rfl, -⟩ := Prod.mk.inj (Except.ok.inj h)
    exact Exact.object List.Pairwise.nil (by simp)
  · obtain ⟨⟨members, rest₁⟩, hmembers, hpair⟩ := Outcome.exists_of_map_eq_ok h
    obtain ⟨rfl, -⟩ := Prod.mk.inj hpair
    exact Exact.object (Dictionary.ofList members).increasing fun m hm =>
      exact_of_readMembers hitem hmembers m (Dictionary.mem_of_mem_ofList hm)
        (membersHaveDouble_eq_false_iff.1 hb m hm)

end

theorem eq_of_readWord {word s rest : Text} {value b : Json}
    (h : readWord word value s = .ok (b, rest)) : b = value := by
  unfold readWord at h
  split at h
  · exact (Prod.mk.inj (Except.ok.inj h)).1.symm
  · exact absurd h (by simp)

/-- A value that was read is no container, or it is one that was read at a lower level. -/
theorem readValue_cases {depth : Nat} {s rest : Text} {b : Json}
    (h : readValue depth s = .ok (b, rest)) :
    (b.hasDouble = false → Exact depth b) ∨
      ∃ lower t, depth = lower + 1 ∧
        (readArray (readValue lower) t = .ok (b, rest) ∨
          readObject (readValue lower) t = .ok (b, rest)) := by
  unfold readValue at h
  split at h
  · exact absurd h (by simp)
  split at h
  · exact Or.inl fun _ => eq_of_readWord h ▸ Exact.null depth
  split at h
  · exact Or.inl fun _ => eq_of_readWord h ▸ Exact.bool depth true
  split at h
  · exact Or.inl fun _ => eq_of_readWord h ▸ Exact.bool depth false
  split at h
  · obtain ⟨r, -, hpair⟩ := Outcome.exists_of_map_eq_ok h
    exact Or.inl fun _ => (Prod.mk.inj hpair).1 ▸ Exact.string depth r.1
  split at h
  · split at h
    · exact absurd h (by simp)
    · exact Or.inr ⟨_, _, rfl, Or.inl h⟩
  split at h
  · split at h
    · exact absurd h (by simp)
    · exact Or.inr ⟨_, _, rfl, Or.inr h⟩
  · refine Or.inl fun hb => ?_
    rcases readNumber_cases h with ⟨x, rfl⟩ | ⟨n, rfl, hn⟩
    · exact absurd hb (by simp [hasDouble])
    · exact Exact.integer depth hn

theorem exact_of_readValue {depth : Nat} {s rest : Text} {b : Json}
    (h : readValue depth s = .ok (b, rest)) (hb : b.hasDouble = false) : Exact depth b := by
  induction depth generalizing s rest b with
  | zero =>
      rcases readValue_cases h with hscalar | ⟨lower, t, hdepth, -⟩
      · exact hscalar hb
      · exact absurd hdepth (by simp)
  | succ depth ih =>
      rcases readValue_cases h with hscalar | ⟨lower, t, hdepth, harray | hobject⟩
      · exact hscalar hb
      · obtain rfl := Nat.succ.inj hdepth
        exact exact_of_readArray ih harray hb
      · obtain rfl := Nat.succ.inj hdepth
        exact exact_of_readObject ih hobject hb

/-- A value that was read is exact or has a number of double precision. -/
theorem exact_of_parse {s : Text} {b : Json} (h : parse s = .ok b) (hb : b.hasDouble = false) :
    Exact depthLimit b := by
  unfold parse at h
  split at h
  · exact absurd h (by simp)
  · next value rest hvalue =>
      split at h
      · rw [Except.ok.inj h] at hvalue
        exact exact_of_readValue hvalue hb
      · exact absurd h (by simp)

end Json

end Pushdown
