/-
**Queries of virtual tables.**

The query of a written table is a row of pieces: the parameters, a numbered piece for each header
and a piece for the body.  Read as a form it is the same row of names and values, which are then
sorted into the parts of the query one by one.

Main definitions:

* `Table.isQueryChar` — the characters a written query is made of;
* `Table.writtenPairs` — the names and values of a written query;
* `Table.IsOrdinary` — the names that are parameters;
* `Table.Adds` — what one pair adds to the parts of a query;
* `Table.QueryParts.Sound` — what every reader of a query keeps true.

Main results:

* `Table.isQueryChar_query` — a written query is made of query characters;
* `Table.readPairs_query` — a written query reads back as its names and values;
* `Table.addPairs_append` — pairs are sorted one after the other;
* `Table.addPairs_invariant` — what every pair keeps is kept by all of them;
* `Table.addPairs_sound` — the parts of a query are sound.
-/

import Pushdown.Proofs.Codec.Form
import Pushdown.Proofs.Table.Params
import Pushdown.Table.Basic

set_option autoImplicit false

namespace Pushdown

namespace Table

/-! ### Characters -/

/-- The characters that the query of a written table is made of. -/
def isQueryChar (c : Char) : Bool :=
  Percent.isAsciiAlphanum c || "-_.~*+%&=:".toList.contains c

theorem isQueryChar_of_isWritten {c : Char} (h : Percent.isWritten c = true) :
    isQueryChar c = true := by
  simp only [Percent.isWritten, Percent.isUnreserved, Bool.or_eq_true, decide_eq_true_eq] at h
  rcases h with ((((h | rfl) | rfl) | rfl) | rfl) | rfl
  · simp [isQueryChar, h]
  all_goals decide

theorem isQueryChar_of_form {c : Char} (h : Form.isWritten c = true) : isQueryChar c = true := by
  simp only [Form.isWritten, Form.isPlain, Bool.or_eq_true, decide_eq_true_eq] at h
  rcases h with (((((h | rfl) | rfl) | rfl) | rfl) | rfl) | rfl
  · simp [isQueryChar, h]
  all_goals decide

theorem isQueryChar_bounds {c : Char} (h : isQueryChar c = true) :
    0x20 < c.toNat ∧ c.toNat < 0x7F := by
  simp only [isQueryChar, Bool.or_eq_true] at h
  rcases h with h | h
  · simp only [Percent.isAsciiAlphanum, Bool.or_eq_true, Bool.and_eq_true, decide_eq_true_eq,
      Char.le_def, UInt32.le_iff_toNat_le] at h
    have hlow : '0'.val.toNat = 0x30 ∧ 'A'.val.toNat = 0x41 ∧ 'a'.val.toNat = 0x61 := by decide
    have hhigh : '9'.val.toNat = 0x39 ∧ 'Z'.val.toNat = 0x5A ∧ 'z'.val.toNat = 0x7A := by decide
    have hc : c.toNat = c.val.toNat := rfl
    omega
  · have hall : ∀ d ∈ "-_.~*+%&=:".toList, 0x20 < d.toNat ∧ d.toNat < 0x7F := by decide
    exact hall c (List.contains_iff_mem.1 h)

theorem isBlank_of_isQueryChar {c : Char} (h : isQueryChar c = true) : Text.isBlank c = false := by
  have hc := isQueryChar_bounds h
  simp only [Text.isBlank, Bool.or_eq_false_iff, Bool.and_eq_false_iff, decide_eq_false_iff_not,
    beq_eq_false_iff_ne]
  omega

theorem isQueryChar_encode (s : Text) : ∀ c ∈ Percent.encode s, isQueryChar c = true :=
  fun c hc => isQueryChar_of_isWritten (Percent.isWritten_encode s c hc)

theorem isQueryChar_writePairs (pairs : List (Text × Text)) :
    ∀ c ∈ Form.writePairs pairs, isQueryChar c = true := by
  intro c hc
  rcases Text.mem_joinWith hc with h | ⟨piece, hpiece, h⟩
  · rw [List.mem_singleton.1 h]
    decide
  · obtain ⟨pair, -, rfl⟩ := List.mem_map.1 hpiece
    rcases List.mem_append.1 h with h | h
    · exact isQueryChar_of_form (Form.isWritten_encode _ c h)
    · rcases List.mem_cons.1 h with rfl | h
      · decide
      · exact isQueryChar_of_form (Form.isWritten_encode _ c h)

/-- The digits of a number are digits. -/
theorem mem_digitsFrom {fuel n : Nat} {acc : Text} {c : Char}
    (h : c ∈ Text.digitsFrom fuel n acc) :
    (∃ k : Fin 10, c = Char.ofNat (48 + k.val)) ∨ c ∈ acc := by
  induction fuel generalizing n acc with
  | zero => exact Or.inr h
  | succ fuel ih =>
      have hdigit : ∀ c ∈ Char.ofNat (48 + n % 10) :: acc,
          (∃ k : Fin 10, c = Char.ofNat (48 + k.val)) ∨ c ∈ acc := by
        intro c hc
        rcases List.mem_cons.1 hc with rfl | hc
        · exact Or.inl ⟨⟨n % 10, by omega⟩, rfl⟩
        · exact Or.inr hc
      simp only [Text.digitsFrom] at h
      split at h
      · exact hdigit c h
      · rcases ih h with hk | hc
        · exact Or.inl hk
        · exact hdigit c hc

theorem isAsciiAlphanum_ofNat (n : Nat) : ∀ c ∈ Text.ofNat n, Percent.isAsciiAlphanum c = true := by
  have digit : ∀ k : Fin 10, Percent.isAsciiAlphanum (Char.ofNat (48 + k.val)) = true := by decide
  intro c hc
  rcases mem_digitsFrom hc with ⟨k, rfl⟩ | h
  · exact digit k
  · exact absurd h List.not_mem_nil

/-- The name of a numbered header pair is made of letters and digits. -/
theorem isAsciiAlphanum_headerName (n : Nat) :
    ∀ c ∈ headerPrefix ++ Text.ofNat n, Percent.isAsciiAlphanum c = true := by
  intro c hc
  rcases List.mem_append.1 hc with h | h
  · have hall : ∀ c ∈ headerPrefix, Percent.isAsciiAlphanum c = true := by decide
    exact hall c h
  · exact isAsciiAlphanum_ofNat n c h

theorem isQueryChar_headerPairs {n : Nat} {entries : List (Text × Text)} {piece : Text}
    (h : piece ∈ headerPairs n entries) : ∀ c ∈ piece, isQueryChar c = true := by
  induction entries generalizing n with
  | nil => exact absurd h List.not_mem_nil
  | cons e entries ih =>
      rcases List.mem_cons.1 h with rfl | h
      · intro c hc
        rcases List.mem_append.1 hc with hc | hc
        · rcases List.mem_append.1 hc with hc | hc
          · simp [isQueryChar, isAsciiAlphanum_headerName n c hc]
          · rcases List.mem_cons.1 hc with rfl | hc
            · decide
            · exact isQueryChar_encode e.1 c hc
        · rcases List.mem_cons.1 hc with rfl | hc
          · decide
          · exact isQueryChar_encode e.2 c hc
      · exact ih h

theorem isQueryChar_queryPieces {t : Table} {piece : Text} (h : piece ∈ t.queryPieces) :
    ∀ c ∈ piece, isQueryChar c = true := by
  rcases List.mem_append.1 h with h | h
  · rcases List.mem_append.1 h with h | h
    · split at h
      · exact absurd h List.not_mem_nil
      · rw [List.mem_singleton.1 h]
        exact isQueryChar_writePairs _
    · exact isQueryChar_headerPairs h
  · split at h
    · exact absurd h List.not_mem_nil
    · next body =>
        rw [List.mem_singleton.1 h]
        intro c hc
        rcases List.mem_append.1 hc with hc | hc
        · have hall : ∀ c ∈ bodyName, isQueryChar c = true := by decide
          exact hall c hc
        · rcases List.mem_cons.1 hc with rfl | hc
          · decide
          · exact isQueryChar_encode _ c hc

/-- The query of a written table behind its question mark. -/
def query (t : Table) : Text := Text.joinWith ['&'] t.queryPieces

/-- A written query is made of query characters. -/
theorem isQueryChar_query (t : Table) : ∀ c ∈ t.query, isQueryChar c = true := by
  intro c hc
  rcases Text.mem_joinWith hc with h | ⟨piece, hpiece, h⟩
  · rw [List.mem_singleton.1 h]
    decide
  · exact isQueryChar_queryPieces hpiece c h

/-- A character that is no query character is not in a written query. -/
theorem not_mem_query {c : Char} (hc : isQueryChar c = false) (t : Table) : c ∉ t.query := by
  intro h
  rw [isQueryChar_query t c h] at hc
  exact absurd hc (by simp)

theorem queryText_eq (t : Table) : t.queryText = [] ∧ t.query = [] ∨
    t.queryText = '?' :: t.query := by
  unfold queryText query
  cases t.queryPieces with
  | nil => exact Or.inl ⟨rfl, rfl⟩
  | cons piece pieces => exact Or.inr rfl

/-! ### Names and values of a written query -/

/-- The names and values of numbered header pairs. -/
def numberedPairs (n : Nat) : List (Text × Text) → List (Text × Text)
  | [] => []
  | (name, value) :: rest =>
      (headerPrefix ++ Text.ofNat n, name ++ ':' :: value) :: numberedPairs (n + 1) rest

/-- The name and value of a body. -/
def bodyPairs : Option Json → List (Text × Text)
  | none => []
  | some body => [(bodyName, body.compact)]

/-- The names and values of a written query. -/
def writtenPairs (t : Table) : List (Text × Text) :=
  t.params.pairs ++ numberedPairs 1 t.headers.entries ++ bodyPairs t.body

/-- A text of letters and digits has no other character. -/
theorem not_mem_of_isAsciiAlphanum {s : Text} {c : Char}
    (h : ∀ d ∈ s, Percent.isAsciiAlphanum d = true) (hc : Percent.isAsciiAlphanum c = false) :
    c ∉ s := by
  intro hm
  rw [h c hm] at hc
  exact absurd hc (by simp)

/-- A pair whose name is made of letters and digits has that name. -/
theorem readPairs_named {key s : Text} (hkey : ∀ c ∈ key, Percent.isAsciiAlphanum c = true)
    (hs : '&' ∉ s) : Form.readPairs (key ++ '=' :: s) = [(key, Form.decode s)] := by
  have hamp : '&' ∉ key ++ '=' :: s :=
    Text.not_mem_append_cons (not_mem_of_isAsciiAlphanum hkey (by decide)) (by decide) hs
  have hname : Form.decode key = key :=
    Form.decode_of_plain (not_mem_of_isAsciiAlphanum hkey (by decide))
      (not_mem_of_isAsciiAlphanum hkey (by decide))
  rw [Form.readPairs_piece (not_mem_of_isAsciiAlphanum hkey (by decide)) hamp, hname]

/-- A header is read from the value of its pair. -/
theorem readPairs_header {key : Text} (hkey : ∀ c ∈ key, Percent.isAsciiAlphanum c = true)
    (name value : Text) :
    Form.readPairs (key ++ '=' :: Percent.encode name ++ ':' :: Percent.encode value) =
      [(key, name ++ ':' :: value)] := by
  have hpiece : key ++ '=' :: Percent.encode name ++ ':' :: Percent.encode value =
      key ++ '=' :: (Percent.encode name ++ ':' :: Percent.encode value) := by
    simp
  have hamp : '&' ∉ Percent.encode name ++ ':' :: Percent.encode value :=
    Text.not_mem_append_cons (Percent.not_mem_encode (by decide) name) (by decide)
      (Percent.not_mem_encode (by decide) value)
  rw [hpiece, readPairs_named hkey hamp, Form.decode_percent_colon]

theorem readPairs_headerPairs (n : Nat) (entries : List (Text × Text)) :
    (headerPairs n entries).flatMap Form.readPairs = numberedPairs n entries := by
  induction entries generalizing n with
  | nil => rfl
  | cons e entries ih =>
      rw [headerPairs, List.flatMap_cons, readPairs_header (isAsciiAlphanum_headerName n), ih,
        List.singleton_append]
      rfl

theorem readPairs_bodyPiece (body : Json) :
    Form.readPairs (bodyName ++ '=' :: encodeBody body) = [(bodyName, body.compact)] := by
  have hname : ∀ c ∈ bodyName, Percent.isAsciiAlphanum c = true := by decide
  rw [encodeBody, readPairs_named hname (Percent.not_mem_encode (by decide) _),
    Form.decode_percent]

/-- A written query reads back as its names and values. -/
theorem readPairs_query (t : Table) : Form.readPairs t.query = t.writtenPairs := by
  have hparams : (if t.params.isEmpty then [] else [Form.writePairs t.params.pairs]).flatMap
      Form.readPairs = t.params.pairs := by
    by_cases h : t.params.isEmpty = true
    · have hnil : t.params.pairs = [] := by
        have hgroups : t.params.groups = [] := by simpa [Params.isEmpty] using h
        simp [Params.pairs, hgroups]
      rw [if_pos h, hnil, List.flatMap_nil]
    · rw [if_neg h, List.flatMap_singleton, Form.readPairs_writePairs]
  rw [query, Form.readPairs_joinWith, queryPieces, List.flatMap_append, List.flatMap_append,
    hparams, readPairs_headerPairs, writtenPairs]
  cases t.body with
  | none => rfl
  | some body => simp only [List.flatMap_singleton, readPairs_bodyPiece, bodyPairs]

/-! ### Sorting pairs into parts -/

/-- The names that are parameters. -/
def IsOrdinary (name : Text) : Prop := ¬ headerPrefix <+: name ∧ name ≠ bodyName

instance (name : Text) : Decidable (IsOrdinary name) := inferInstanceAs (Decidable (_ ∧ _))

theorem addPair_blank (parts : QueryParts) (name : Text) : addPair parts name [] = .ok parts := rfl

theorem addPair_ordinary {parts : QueryParts} {name value : Text} (hname : IsOrdinary name)
    (hvalue : value ≠ []) :
    addPair parts name value = .ok { parts with params := parts.params.append name value } := by
  have hprefix : headerPrefix.isPrefixOf name = false := by
    rw [← Bool.not_eq_true, List.isPrefixOf_iff_prefix]
    exact hname.1
  simp [addPair, hvalue, hprefix, hname.2]

theorem addPair_header {parts : QueryParts} {name value : Text} (hname : headerPrefix <+: name)
    (hvalue : value ≠ []) :
    addPair parts name value =
      match Header.parse? value with
      | some header => .ok { parts with headers := parts.headers ++ [header] }
      | none => .error (.malformedHeader value) := by
  cases hparse : Header.parse? value with
  | none => simp [addPair, hvalue, List.isPrefixOf_iff_prefix.2 hname, hparse]
  | some header => simp [addPair, hvalue, List.isPrefixOf_iff_prefix.2 hname, hparse]

theorem addPair_body {parts : QueryParts} {value : Text} (hvalue : value ≠ []) :
    addPair parts bodyName value =
      match Json.parse value with
      | .ok body => .ok { parts with body := some body }
      | .error cause => .error (.body cause) := by
  have hprefix : headerPrefix.isPrefixOf bodyName = false := by decide
  cases hparse : Json.parse value with
  | error cause => simp [addPair, hvalue, hprefix, hparse]
  | ok body => simp [addPair, hvalue, hprefix, hparse]

/-- What a pair adds to the parts of a query. -/
inductive Adds (parts : QueryParts) (name value : Text) : QueryParts → Prop
  /-- Without a value it counts for nothing. -/
  | blank : value = [] → Adds parts name value parts
  | header {header : Header} : value ≠ [] → headerPrefix <+: name →
      Header.parse? value = some header →
        Adds parts name value { parts with headers := parts.headers ++ [header] }
  | body {body : Json} : value ≠ [] → name = bodyName → Json.parse value = .ok body →
      Adds parts name value { parts with body := some body }
  | param : value ≠ [] → IsOrdinary name →
      Adds parts name value { parts with params := parts.params.append name value }

theorem adds_of_addPair {parts parts' : QueryParts} {name value : Text}
    (h : addPair parts name value = .ok parts') : Adds parts name value parts' := by
  by_cases hvalue : value = []
  · subst hvalue
    rw [addPair_blank] at h
    exact Except.ok.inj h ▸ Adds.blank rfl
  by_cases hheader : headerPrefix <+: name
  · rw [addPair_header hheader hvalue] at h
    split at h
    · next header hparse => exact Except.ok.inj h ▸ Adds.header hvalue hheader hparse
    · exact absurd h (by simp)
  by_cases hbody : name = bodyName
  · subst hbody
    rw [addPair_body hvalue] at h
    split at h
    · next body hread => exact Except.ok.inj h ▸ Adds.body hvalue rfl hread
    · exact absurd h (by simp)
  · rw [addPair_ordinary ⟨hheader, hbody⟩ hvalue] at h
    exact Except.ok.inj h ▸ Adds.param hvalue ⟨hheader, hbody⟩

/-- Pairs are sorted one after the other. -/
theorem addPairs_append (parts : QueryParts) (a b : List (Text × Text)) :
    addPairs parts (a ++ b) =
      match addPairs parts a with
      | .error e => .error e
      | .ok parts => addPairs parts b := by
  induction a generalizing parts with
  | nil => rfl
  | cons pair a ih =>
      simp only [List.cons_append, addPairs]
      cases addPair parts pair.1 pair.2 with
      | error e => rfl
      | ok parts => exact ih parts

theorem addPairs_cons_eq_ok_iff {parts parts' : QueryParts} {pair : Text × Text}
    {pairs : List (Text × Text)} :
    addPairs parts (pair :: pairs) = .ok parts' ↔
      ∃ middle, addPair parts pair.1 pair.2 = .ok middle ∧ addPairs middle pairs = .ok parts' := by
  rw [addPairs]
  cases addPair parts pair.1 pair.2 with
  | error e => simp
  | ok middle => simp

/-- What every pair keeps is kept by all of them. -/
theorem addPairs_invariant {P : QueryParts → Prop} {pairs : List (Text × Text)}
    (hstep : ∀ pair ∈ pairs, ∀ parts parts', P parts →
      addPair parts pair.1 pair.2 = .ok parts' → P parts')
    {parts parts' : QueryParts} (hparts : P parts) (h : addPairs parts pairs = .ok parts') :
    P parts' := by
  induction pairs generalizing parts with
  | nil => exact Except.ok.inj h ▸ hparts
  | cons pair pairs ih =>
      obtain ⟨middle, hfirst, hrest⟩ := addPairs_cons_eq_ok_iff.1 h
      have hmiddle := hstep pair List.mem_cons_self parts middle hparts hfirst
      exact ih (fun x hx => hstep x (List.mem_cons_of_mem _ hx)) hmiddle hrest

/-! ### Soundness of the parts -/

/-- What every reader of a query keeps true: parameters have ordinary names and values that are not
empty, and no name of a header pair has a colon. -/
structure QueryParts.Sound (parts : QueryParts) : Prop where
  params : ∀ pair ∈ parts.params.pairs, IsOrdinary pair.1 ∧ pair.2 ≠ []
  headers : ∀ header ∈ parts.headers, ':' ∉ header.name

theorem QueryParts.sound_empty : QueryParts.Sound ⟨Params.empty, [], none⟩ :=
  ⟨by simp [Params.empty, Params.pairs], by simp⟩

/-- The name of a header pair ends at the first colon. -/
theorem colon_not_mem_of_parse? {pair : Text} {header : Header}
    (h : Header.parse? pair = some header) : ':' ∉ header.name := by
  obtain ⟨⟨name, value⟩, hsplit, rfl⟩ := Option.map_eq_some_iff.1 h
  exact (Text.eq_append_of_splitFirst? hsplit).2

theorem addPair_sound {parts parts' : QueryParts} {name value : Text} (hs : parts.Sound)
    (h : addPair parts name value = .ok parts') : parts'.Sound := by
  cases adds_of_addPair h with
  | blank => exact hs
  | header _ _ hparse =>
      refine ⟨hs.params, fun x hx => ?_⟩
      rcases List.mem_append.1 hx with hx | hx
      · exact hs.headers x hx
      · rw [List.mem_singleton.1 hx]
        exact colon_not_mem_of_parse? hparse
  | body => exact ⟨hs.params, hs.headers⟩
  | param hvalue hname =>
      refine ⟨fun pair hpair => ?_, hs.headers⟩
      rcases Params.mem_pairs_append.1 hpair with rfl | hpair
      · exact ⟨hname, hvalue⟩
      · exact hs.params pair hpair

/-- The parts of a query are sound. -/
theorem addPairs_sound {parts parts' : QueryParts} {pairs : List (Text × Text)}
    (hs : parts.Sound) (h : addPairs parts pairs = .ok parts') : parts'.Sound :=
  addPairs_invariant (fun _ _ _ _ => addPair_sound) hs h

theorem readQuery_sound {query : Text} {parts : QueryParts} (h : readQuery query = .ok parts) :
    parts.Sound :=
  addPairs_sound QueryParts.sound_empty h

end Table

end Pushdown
