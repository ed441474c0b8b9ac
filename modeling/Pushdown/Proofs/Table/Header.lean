/-
**What is read of repeated headers.**

Header pairs of one name are merged: the values that count, without repetitions and in increasing
order, are joined by commas.  This module describes the merged headers without the fold that
collects them, name by name.

Main definitions:

* `Header.valuesOf` — the values that pairs give to a name;
* `Header.sorted` — texts in increasing order without repetitions.

Main results:

* `Header.mem_sorted`, `Header.sorted_increasing` — the sorted texts are the given ones;
* `Header.get?_mergeAll` — a merged header is the join of its sorted values;
* `Header.mergeAll_congr` — merged headers depend on the set of headers only;
* `Header.mergeAll_entries` — headers with one value for each name come back from their pairs.
-/

import Pushdown.Proofs.Text.Dictionary
import Pushdown.Table.Header

set_option autoImplicit false

namespace Pushdown

namespace Header

/-! ### Sets of values -/

/-- The set with further values. -/
def addValues (found : Values) (values : List Text) : Values :=
  values.foldl (fun s v => s.insert v ()) found

/-- Texts in increasing order without repetitions. -/
def sorted (values : List Text) : List Text := (addValues Dictionary.empty values).keys

theorem mem_keys_addValues {found : Values} {values : List Text} {v : Text} :
    v ∈ (addValues found values).keys ↔ v ∈ found.keys ∨ v ∈ values := by
  induction values generalizing found with
  | nil => simp [addValues]
  | cons x values ih =>
      have h := @ih (found.insert x ())
      rw [Dictionary.mem_keys_insert] at h
      rw [List.mem_cons]
      constructor
      · intro hv
        rcases h.1 hv with (hx | hf) | hvs
        · exact Or.inr (Or.inl hx)
        · exact Or.inl hf
        · exact Or.inr (Or.inr hvs)
      · rintro (hf | hx | hvs)
        · exact h.2 (Or.inl (Or.inr hf))
        · exact h.2 (Or.inl (Or.inl hx))
        · exact h.2 (Or.inr hvs)

theorem mem_sorted {values : List Text} {v : Text} : v ∈ sorted values ↔ v ∈ values := by
  rw [sorted, mem_keys_addValues]
  simp [Dictionary.keys, Dictionary.empty]

theorem sorted_increasing (values : List Text) :
    (sorted values).Pairwise fun a b => Text.precedes a b = true :=
  Dictionary.keys_increasing _

/-- Which texts stand in increasing order depends on what texts there are, and on nothing else. -/
theorem sorted_congr {a b : List Text} (h : ∀ v, v ∈ a ↔ v ∈ b) : sorted a = sorted b := by
  refine congrArg Dictionary.keys (Dictionary.ext_get? fun v => Option.ext fun u => ?_)
  have hmem (values : List Text) :
      (addValues Dictionary.empty values).get? v = some u ↔ v ∈ values := by
    rw [← mem_sorted, sorted, Dictionary.mem_keys_iff]
    exact ⟨fun hv => ⟨u, hv⟩, fun ⟨_, hv⟩ => hv⟩
  rw [hmem a, hmem b]
  exact h v

/-! ### The values of a name -/

/-- The values that count of the pairs with a name, in order. -/
def valuesOf (name : Text) (headers : List Header) : List Text :=
  (headers.filter fun h => h.name = name ∧ h.name ≠ [] ∧ h.value ≠ []).map Header.value

theorem mem_valuesOf {name v : Text} {headers : List Header} :
    v ∈ valuesOf name headers ↔ ⟨name, v⟩ ∈ headers ∧ name ≠ [] ∧ v ≠ [] := by
  simp only [valuesOf, List.mem_map, List.mem_filter, decide_eq_true_eq]
  constructor
  · rintro ⟨⟨n, x⟩, ⟨hmem, rfl, hn, hv⟩, rfl⟩
    exact ⟨hmem, hn, hv⟩
  · rintro ⟨hmem, hn, hv⟩
    exact ⟨⟨name, v⟩, ⟨hmem, rfl, hn, hv⟩, rfl⟩

theorem valuesOf_cons (name : Text) (h : Header) (headers : List Header) :
    valuesOf name (h :: headers) =
      if h.name = name ∧ h.name ≠ [] ∧ h.value ≠ [] then h.value :: valuesOf name headers
      else valuesOf name headers := by
  by_cases hc : h.name = name ∧ h.name ≠ [] ∧ h.value ≠ []
  · rw [if_pos hc, valuesOf, List.filter_cons_of_pos (by simpa using hc)]
    rfl
  · rw [if_neg hc, valuesOf, List.filter_cons_of_neg (by simpa using hc)]
    rfl

/-- A name without values has no entry; otherwise its values are added to those it has. -/
theorem get?_foldl_collect (found : Dictionary Values) (headers : List Header) (name : Text) :
    (headers.foldl collect found).get? name =
      if valuesOf name headers = [] then found.get? name
      else some (addValues ((found.get? name).getD Dictionary.empty) (valuesOf name headers)) := by
  induction headers generalizing found with
  | nil => rfl
  | cons h headers ih =>
      rw [List.foldl_cons, ih]
      by_cases hcount : h.name ≠ [] ∧ h.value ≠ []
      · obtain ⟨hn, hv⟩ := hcount
        have hcollect : collect found h =
            found.insert h.name
              (((found.get? h.name).getD Dictionary.empty).insert h.value ()) := by
          simp [collect, hn, hv]
        rw [hcollect, Dictionary.get?_insert]
        by_cases hname : h.name = name
        · subst hname
          have hvalues : valuesOf h.name (h :: headers) = h.value :: valuesOf h.name headers := by
            rw [valuesOf_cons, if_pos ⟨rfl, hn, hv⟩]
          rw [hvalues, if_pos rfl, if_neg (List.cons_ne_nil _ _)]
          by_cases hnil : valuesOf h.name headers = []
          · simp [hnil, addValues]
          · simp [hnil, addValues]
        · have hvalues : valuesOf name (h :: headers) = valuesOf name headers := by
            rw [valuesOf_cons, if_neg fun hp => hname hp.1]
          rw [hvalues, if_neg hname]
      · have hcollect : collect found h = found := by
          by_cases hn : h.name = []
          · simp [collect, hn]
          · have hv : h.value = [] := by
              rcases Decidable.em (h.value = []) with hv | hv
              · exact hv
              · exact absurd ⟨hn, hv⟩ hcount
            simp [collect, hv]
        have hvalues : valuesOf name (h :: headers) = valuesOf name headers := by
          rw [valuesOf_cons, if_neg fun hp => hcount hp.2]
        rw [hcollect, hvalues]

/-! ### Merged headers -/

/-- A merged header is the join of its sorted values; a name without values has none. -/
theorem get?_mergeAll (headers : List Header) (name : Text) :
    (mergeAll headers).get? name =
      if valuesOf name headers = [] then none
      else some (Text.joinWith [','] (sorted (valuesOf name headers))) := by
  rw [mergeAll, Dictionary.get?_map, get?_foldl_collect]
  by_cases h : valuesOf name headers = []
  · simp [h]
  · simp [h, sorted]

/-- Merged headers depend on what headers with a name and a value there are, and on nothing else. -/
theorem mergeAll_congr {a b : List Header}
    (h : ∀ x : Header, x.name ≠ [] → x.value ≠ [] → (x ∈ a ↔ x ∈ b)) : mergeAll a = mergeAll b := by
  refine Dictionary.ext_get? fun name => ?_
  have hvalues : ∀ v, v ∈ valuesOf name a ↔ v ∈ valuesOf name b := by
    intro v
    rw [mem_valuesOf, mem_valuesOf]
    exact and_congr_left fun hne => h ⟨name, v⟩ hne.1 hne.2
  have hnil : valuesOf name a = [] ↔ valuesOf name b = [] := by
    simp only [List.eq_nil_iff_forall_not_mem, hvalues]
  rw [get?_mergeAll, get?_mergeAll, sorted_congr hvalues]
  simp only [hnil]

/-- Every merged header has a name and a value, and names and values are those of pairs. -/
theorem of_get?_mergeAll {headers : List Header} {name text : Text}
    (h : (mergeAll headers).get? name = some text) :
    valuesOf name headers ≠ [] ∧
      text = Text.joinWith [','] (sorted (valuesOf name headers)) := by
  rw [get?_mergeAll] at h
  split at h
  · exact absurd h (by simp)
  · next hne => exact ⟨hne, (Option.some.inj h).symm⟩

/-- A join of texts that are not empty is not empty, if there are any. -/
theorem joinWith_ne_nil {sep : Text} {values : List Text} (hne : values ≠ [])
    (h : ∀ v ∈ values, v ≠ []) : Text.joinWith sep values ≠ [] := by
  match values, hne with
  | [v], _ => exact h v List.mem_cons_self
  | v :: w :: rest, _ =>
      have hv := h v List.mem_cons_self
      simp [Text.joinWith, hv]

theorem ne_nil_of_get?_mergeAll {headers : List Header} {name text : Text}
    (h : (mergeAll headers).get? name = some text) : name ≠ [] ∧ text ≠ [] := by
  obtain ⟨hvalues, rfl⟩ := of_get?_mergeAll h
  obtain ⟨v, rest, hv⟩ := List.exists_cons_of_ne_nil hvalues
  have hmem : v ∈ valuesOf name headers := hv ▸ List.mem_cons_self
  refine ⟨(mem_valuesOf.1 hmem).2.1, joinWith_ne_nil ?_ ?_⟩
  · intro hnil
    have hv' := mem_sorted.2 hmem
    rw [hnil] at hv'
    exact absurd hv' List.not_mem_nil
  · intro w hw
    exact (mem_valuesOf.1 (mem_sorted.1 hw)).2.2

/-! ### One value for each name -/

/-- The pairs of headers with one value for each name. -/
def ofEntries (entries : List (Text × Text)) : List Header := entries.map fun e => ⟨e.1, e.2⟩

theorem valuesOf_ofEntries {entries : List (Text × Text)}
    (h : ∀ e ∈ entries, e.1 ≠ [] ∧ e.2 ≠ []) (name : Text) :
    valuesOf name (ofEntries entries) = (entries.filter fun e => e.1 = name).map Prod.snd := by
  induction entries with
  | nil => rfl
  | cons e entries ih =>
      obtain ⟨hn, hv⟩ := h e List.mem_cons_self
      have hrest := ih fun x hx => h x (List.mem_cons_of_mem _ hx)
      rw [ofEntries, List.map_cons, valuesOf_cons]
      rw [ofEntries] at hrest
      by_cases he : e.1 = name
      · rw [if_pos ⟨he, hn, hv⟩, hrest, List.filter_cons_of_pos (by simpa using he), List.map_cons]
      · rw [if_neg fun hp => he hp.1, hrest, List.filter_cons_of_neg (by simpa using he)]

/-- Headers with one value for each name come back from their pairs. -/
theorem mergeAll_entries (d : Dictionary Text) (h : ∀ e ∈ d.entries, e.1 ≠ [] ∧ e.2 ≠ []) :
    mergeAll (ofEntries d.entries) = d := by
  refine Dictionary.ext_get? fun name => ?_
  rw [get?_mergeAll, valuesOf_ofEntries h, Dictionary.filter_entries]
  cases hd : d.get? name with
  | none => rfl
  | some v => rfl

end Header

end Pushdown
