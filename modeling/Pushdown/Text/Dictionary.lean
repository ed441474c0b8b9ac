/-
**Dictionaries in key order.**

A dictionary maps texts to values and lists its entries by increasing key.  Headers, whitelists
and the members of a JSON object are dictionaries; the order is part of every answer that shows
them.

Main definitions:

* `Dictionary` — entries with strictly increasing keys;
* `Dictionary.insert`, `Dictionary.get?`, `Dictionary.ofList` — the last value given for a key
  wins.

Main results:

* `Dictionary.get?_insert` — an insertion is seen under its own key and nowhere else;
* `Dictionary.ext_entries` — the entries determine the dictionary.
-/

import Pushdown.Text.Basic

set_option autoImplicit false

namespace Pushdown

/-- Entries with strictly increasing keys. -/
structure Dictionary (β : Type) where
  entries : List (Text × β)
  increasing : entries.Pairwise fun a b => Text.precedes a.1 b.1 = true

namespace Dictionary

variable {β : Type}

theorem ext_entries {d e : Dictionary β} (h : d.entries = e.entries) : d = e := by
  cases d
  cases e
  cases h
  rfl

instance [DecidableEq β] : DecidableEq (Dictionary β) := fun d e =>
  if h : d.entries = e.entries then isTrue (ext_entries h)
  else isFalse fun hde => h (by rw [hde])

/-- No entries. -/
def empty : Dictionary β := ⟨[], List.Pairwise.nil⟩

instance : Inhabited (Dictionary β) := ⟨empty⟩

/-- Whether there are no entries. -/
def isEmpty (d : Dictionary β) : Bool := d.entries.isEmpty

/-- The keys in order. -/
def keys (d : Dictionary β) : List Text := d.entries.map Prod.fst

/-- The value of the first entry under `k`. -/
def lookup (k : Text) : List (Text × β) → Option β
  | [] => none
  | (k', v) :: rest => if k' = k then some v else lookup k rest

/-- The value under a key. -/
def get? (d : Dictionary β) (k : Text) : Option β := lookup k d.entries

/-- Puts an entry at its place in a list with increasing keys, over an entry with the same key. -/
def insertEntry (k : Text) (v : β) : List (Text × β) → List (Text × β)
  | [] => [(k, v)]
  | (k', v') :: rest =>
      if k = k' then (k, v) :: rest
      else if Text.precedes k k' then (k, v) :: (k', v') :: rest
      else (k', v') :: insertEntry k v rest

theorem mem_insertEntry {k : Text} {v : β} {l : List (Text × β)} {e : Text × β}
    (h : e ∈ insertEntry k v l) : e = (k, v) ∨ e ∈ l := by
  induction l with
  | nil => simpa [insertEntry] using h
  | cons head rest ih =>
      obtain ⟨k', v'⟩ := head
      simp only [insertEntry] at h
      split at h
      · rcases List.mem_cons.1 h with rfl | h
        · exact Or.inl rfl
        · exact Or.inr (List.mem_cons_of_mem _ h)
      · split at h
        · rcases List.mem_cons.1 h with rfl | h
          · exact Or.inl rfl
          · exact Or.inr h
        · rcases List.mem_cons.1 h with rfl | h
          · exact Or.inr List.mem_cons_self
          · rcases ih h with h | h
            · exact Or.inl h
            · exact Or.inr (List.mem_cons_of_mem _ h)

theorem pairwise_insertEntry {k : Text} {v : β} {l : List (Text × β)}
    (h : l.Pairwise fun a b => Text.precedes a.1 b.1 = true) :
    (insertEntry k v l).Pairwise fun a b => Text.precedes a.1 b.1 = true := by
  induction l with
  | nil => simp [insertEntry]
  | cons head rest ih =>
      obtain ⟨k', v'⟩ := head
      obtain ⟨hhead, hrest⟩ := List.pairwise_cons.1 h
      simp only [insertEntry]
      split
      · next hk =>
          subst hk
          exact List.pairwise_cons.2 ⟨hhead, hrest⟩
      · next hk =>
          split
          · next hlt =>
              refine List.pairwise_cons.2 ⟨?_, h⟩
              intro e he
              rcases List.mem_cons.1 he with rfl | he
              · exact hlt
              · exact Text.precedes_trans hlt (hhead e he)
          · next hlt =>
              have hgt : Text.precedes k' k = true :=
                (Text.precedes_total hk).resolve_left hlt
              refine List.pairwise_cons.2 ⟨?_, ih hrest⟩
              intro e he
              rcases mem_insertEntry he with rfl | he
              · exact hgt
              · exact hhead e he

/-- The dictionary with `v` under `k`, whatever was there. -/
def insert (d : Dictionary β) (k : Text) (v : β) : Dictionary β :=
  ⟨insertEntry k v d.entries, pairwise_insertEntry d.increasing⟩

/-- The dictionary of a list of entries; of equal keys the last one counts. -/
def ofList (l : List (Text × β)) : Dictionary β :=
  l.foldl (fun d e => d.insert e.1 e.2) empty

/-- The same keys with other values. -/
def map {γ : Type} (f : β → γ) (d : Dictionary β) : Dictionary γ :=
  ⟨d.entries.map fun e => (e.1, f e.2), by
    rw [List.pairwise_map]
    exact d.increasing⟩

theorem lookup_insertEntry (k k₀ : Text) (v : β) (l : List (Text × β)) :
    lookup k₀ (insertEntry k v l) = if k = k₀ then some v else lookup k₀ l := by
  induction l with
  | nil => simp [insertEntry, lookup]
  | cons head rest ih =>
      obtain ⟨k', v'⟩ := head
      simp only [insertEntry]
      split
      · next hk =>
          subst hk
          by_cases h : k = k₀ <;> simp [lookup, h]
      · next hk =>
          split
          · rfl
          · by_cases h : k = k₀
            · subst h
              simp [lookup, ih, Ne.symm hk]
            · simp [lookup, ih, h]

/-- An insertion is seen under its own key and nowhere else. -/
theorem get?_insert (d : Dictionary β) (k k₀ : Text) (v : β) :
    (d.insert k v).get? k₀ = if k = k₀ then some v else d.get? k₀ :=
  lookup_insertEntry k k₀ v d.entries

@[simp] theorem get?_empty (k : Text) : (empty : Dictionary β).get? k = none := rfl

end Dictionary

end Pushdown
