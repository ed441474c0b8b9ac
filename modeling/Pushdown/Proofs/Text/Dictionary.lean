/-
**Dictionaries by what they answer.**

The entries of a dictionary are listed by increasing key, so a dictionary is determined by the
values that it has under its keys, and a key occurs in one entry at most.

Main results:

* `Text.precedes_asymm` — of two texts at most one precedes the other;
* `Dictionary.get?_eq_some_iff` — a look-up finds exactly the entries;
* `Dictionary.ext_get?` — dictionaries with the same look-ups are equal;
* `Dictionary.mem_keys_insert` — the keys after an insertion;
* `Dictionary.entries_ofList`, `Dictionary.mem_of_mem_ofList` — the entries of the dictionary of a
  list.
-/

import Pushdown.Text.Dictionary

set_option autoImplicit false

namespace Pushdown

theorem Text.precedes_asymm {a b : Text} (h : Text.precedes a b = true) :
    Text.precedes b a = false := by
  cases hba : Text.precedes b a with
  | false => rfl
  | true =>
      have haa := Text.precedes_trans h hba
      rw [Text.precedes_irrefl] at haa
      exact absurd haa (by simp)

namespace Dictionary

variable {β γ : Type}

/-! ### Look-ups -/

/-- A key before all keys of a list is not in it. -/
theorem lookup_eq_none_of_forall {k : Text} {l : List (Text × β)}
    (h : ∀ e ∈ l, Text.precedes k e.1 = true) : lookup k l = none := by
  induction l with
  | nil => rfl
  | cons e l ih =>
      have hne : e.1 ≠ k := by
        intro he
        have hlt := h e List.mem_cons_self
        rw [he, Text.precedes_irrefl] at hlt
        exact absurd hlt (by simp)
      have hrest := ih fun x hx => h x (List.mem_cons_of_mem _ hx)
      simpa [lookup, hne] using hrest

theorem mem_of_lookup {k : Text} {v : β} {l : List (Text × β)} (h : lookup k l = some v) :
    (k, v) ∈ l := by
  induction l with
  | nil => simp [lookup] at h
  | cons e l ih =>
      by_cases he : e.1 = k
      · have hv : e.2 = v := by simpa [lookup, he] using h
        subst he hv
        exact List.mem_cons_self
      · exact List.mem_cons_of_mem _ (ih (by simpa [lookup, he] using h))

theorem lookup_of_mem {k : Text} {v : β} {l : List (Text × β)}
    (hl : l.Pairwise fun a b => Text.precedes a.1 b.1 = true) (h : (k, v) ∈ l) :
    lookup k l = some v := by
  induction l with
  | nil => exact absurd h List.not_mem_nil
  | cons e l ih =>
      obtain ⟨hhead, hrest⟩ := List.pairwise_cons.1 hl
      rcases List.mem_cons.1 h with rfl | hmem
      · simp [lookup]
      · have hlt := hhead (k, v) hmem
        have hne : e.1 ≠ k := by
          intro he
          rw [he, Text.precedes_irrefl] at hlt
          exact absurd hlt (by simp)
        simpa [lookup, hne] using ih hrest hmem

/-- A look-up finds exactly the entries. -/
theorem get?_eq_some_iff {d : Dictionary β} {k : Text} {v : β} :
    d.get? k = some v ↔ (k, v) ∈ d.entries :=
  ⟨mem_of_lookup, lookup_of_mem d.increasing⟩

/-- A key that is found does not come before the first key. -/
theorem precedes_head_eq_false {k : Text} {v : β} {e : Text × β} {l : List (Text × β)}
    (hl : (e :: l).Pairwise fun a b => Text.precedes a.1 b.1 = true)
    (h : lookup k (e :: l) = some v) : Text.precedes k e.1 = false := by
  obtain ⟨hhead, -⟩ := List.pairwise_cons.1 hl
  rcases List.mem_cons.1 (mem_of_lookup h) with rfl | hmem
  · exact Text.precedes_irrefl k
  · exact Text.precedes_asymm (hhead _ hmem)

theorem entries_eq_of_lookup {l m : List (Text × β)}
    (hl : l.Pairwise fun a b => Text.precedes a.1 b.1 = true)
    (hm : m.Pairwise fun a b => Text.precedes a.1 b.1 = true)
    (h : ∀ k, lookup k l = lookup k m) : l = m := by
  induction l generalizing m with
  | nil =>
      cases m with
      | nil => rfl
      | cons e m =>
          have := h e.1
          simp [lookup] at this
  | cons a l ih =>
      cases m with
      | nil =>
          have := h a.1
          simp [lookup] at this
      | cons b m =>
          obtain ⟨ha, hl'⟩ := List.pairwise_cons.1 hl
          obtain ⟨hb, hm'⟩ := List.pairwise_cons.1 hm
          have hab : Text.precedes a.1 b.1 = false :=
            precedes_head_eq_false hm (v := a.2) (by rw [← h]; simp [lookup])
          have hba : Text.precedes b.1 a.1 = false :=
            precedes_head_eq_false hl (v := b.2) (by rw [h]; simp [lookup])
          have hkey : a.1 = b.1 := by
            rcases Decidable.em (a.1 = b.1) with heq | hne
            · exact heq
            · rcases Text.precedes_total hne with hlt | hgt
              · rw [hab] at hlt
                exact absurd hlt (by simp)
              · rw [hba] at hgt
                exact absurd hgt (by simp)
          have hvalue : a.2 = b.2 := by simpa [lookup, hkey] using h a.1
          have htail : l = m := by
            refine ih hl' hm' fun k => ?_
            by_cases hk : a.1 = k
            · subst hk
              rw [lookup_eq_none_of_forall ha, hkey, lookup_eq_none_of_forall hb]
            · have hk' : b.1 ≠ k := hkey ▸ hk
              simpa [lookup, hk, hk'] using h k
          rw [htail, Prod.ext hkey hvalue]

/-- Dictionaries with the same look-ups are equal. -/
theorem ext_get? {d e : Dictionary β} (h : ∀ k, d.get? k = e.get? k) : d = e :=
  ext_entries (entries_eq_of_lookup d.increasing e.increasing h)

theorem get?_map (f : β → γ) (d : Dictionary β) (k : Text) :
    (d.map f).get? k = (d.get? k).map f := by
  have h : ∀ l : List (Text × β),
      lookup k (l.map fun e => (e.1, f e.2)) = (lookup k l).map f := by
    intro l
    induction l with
    | nil => rfl
    | cons e l ih => by_cases he : e.1 = k <;> simp [lookup, he, ih]
  exact h d.entries

/-! ### Keys -/

theorem mem_keys_iff {d : Dictionary β} {k : Text} : k ∈ d.keys ↔ ∃ v, d.get? k = some v := by
  constructor
  · intro h
    obtain ⟨⟨k', v⟩, he, rfl⟩ := List.mem_map.1 h
    exact ⟨v, get?_eq_some_iff.2 he⟩
  · rintro ⟨v, h⟩
    exact List.mem_map.2 ⟨(k, v), get?_eq_some_iff.1 h, rfl⟩

@[simp] theorem mem_keys_insert {d : Dictionary β} {k k₀ : Text} {v : β} :
    k₀ ∈ (d.insert k v).keys ↔ k₀ = k ∨ k₀ ∈ d.keys := by
  rw [mem_keys_iff, mem_keys_iff]
  by_cases h : k = k₀
  · subst h
    simp [get?_insert]
  · simp [get?_insert, h, Ne.symm h]

theorem keys_increasing (d : Dictionary β) :
    d.keys.Pairwise fun a b => Text.precedes a b = true := by
  rw [keys, List.pairwise_map]
  exact d.increasing

/-- The entries under a key are the one that a look-up finds. -/
theorem filter_entries (d : Dictionary β) (k : Text) :
    (d.entries.filter fun e => e.1 = k).map Prod.snd = (d.get? k).toList := by
  have h : ∀ l : List (Text × β), (l.Pairwise fun a b => Text.precedes a.1 b.1 = true) →
      (l.filter fun e => e.1 = k).map Prod.snd = (lookup k l).toList := by
    intro l hl
    induction l with
    | nil => rfl
    | cons e l ih =>
        obtain ⟨hhead, hrest⟩ := List.pairwise_cons.1 hl
        by_cases he : e.1 = k
        · have hnone : lookup k l = none := he ▸ lookup_eq_none_of_forall hhead
          simp [lookup, he, ih hrest, hnone]
        · simp [lookup, he, ih hrest]
  exact h d.entries d.increasing

/-! ### Dictionaries of lists -/

/-- An entry behind all others goes to the end. -/
theorem insertEntry_of_forall {k : Text} {v : β} {l : List (Text × β)}
    (h : ∀ e ∈ l, Text.precedes e.1 k = true) : insertEntry k v l = l ++ [(k, v)] := by
  induction l with
  | nil => rfl
  | cons e l ih =>
      have hlt := h e List.mem_cons_self
      have hne : k ≠ e.1 := by
        rintro rfl
        rw [Text.precedes_irrefl] at hlt
        exact absurd hlt (by simp)
      rw [insertEntry, if_neg hne, if_neg (by simp [Text.precedes_asymm hlt]),
        ih fun x hx => h x (List.mem_cons_of_mem _ hx), List.cons_append]

/-- The dictionary of entries whose keys increase has just these entries. -/
theorem entries_ofList {l : List (Text × β)}
    (h : l.Pairwise fun a b => Text.precedes a.1 b.1 = true) : (ofList l).entries = l := by
  -- Entry by entry: the key of each comes behind those that are there.
  have key : ∀ (rest : List (Text × β)) (d : Dictionary β),
      (d.entries ++ rest).Pairwise (fun a b => Text.precedes a.1 b.1 = true) →
        (rest.foldl (fun d e => d.insert e.1 e.2) d).entries = d.entries ++ rest := by
    intro rest
    induction rest with
    | nil => exact fun d _ => (List.append_nil _).symm
    | cons e rest ih =>
        intro d hd
        have hlast := fun x hx => (List.pairwise_append.1 hd).2.2 x hx e List.mem_cons_self
        have hinsert : (d.insert e.1 e.2).entries = d.entries ++ [e] :=
          insertEntry_of_forall hlast
        rw [List.foldl_cons, ih _ (by rw [hinsert]; simpa using hd), hinsert]
        simp
  exact key l empty h

/-- The entries of a dictionary of a list are in the list. -/
theorem mem_of_mem_ofList {l : List (Text × β)} {e : Text × β} (h : e ∈ (ofList l).entries) :
    e ∈ l := by
  have key : ∀ (rest : List (Text × β)) (d : Dictionary β),
      e ∈ (rest.foldl (fun d e => d.insert e.1 e.2) d).entries → e ∈ d.entries ∨ e ∈ rest := by
    intro rest
    induction rest with
    | nil => exact fun d hd => Or.inl hd
    | cons x rest ih =>
        intro d hd
        rcases ih _ hd with hmem | hmem
        · rcases mem_insertEntry hmem with rfl | hmem
          · exact Or.inr List.mem_cons_self
          · exact Or.inl hmem
        · exact Or.inr (List.mem_cons_of_mem _ hmem)
  exact (key l empty h).resolve_left List.not_mem_nil

end Dictionary

end Pushdown
