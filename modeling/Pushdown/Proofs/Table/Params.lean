/-
**Parameters and their pairs.**

Parameters that were given one after the other keep each name once and no name without a value.
Given again in the order in which they are listed, they are the same parameters.

Main definitions:

* `Params.Grouped` — every name once and with at least one value;
* `Params.given` — the values that pairs give to a name.

Main results:

* `Params.grouped_ofPairs` — parameters given one after the other are grouped;
* `Params.ofPairs_pairs` — grouped parameters come back from their pairs;
* `Params.get?_ofPairs` — the values of a name are those given to it, in order;
* `Params.append_inj` — parameters tell which value came last.
-/

import Pushdown.Table.Params

set_option autoImplicit false

namespace Pushdown

namespace Params

/-- Every name once and with at least one value. -/
structure Grouped (p : Params) : Prop where
  nodup : (p.groups.map Prod.fst).Nodup
  values_ne_nil : ∀ g ∈ p.groups, g.2 ≠ []

/-! ### Names -/

/-- A new name comes last, and one that is there already stays where it is. -/
theorem names_appendGroup (name value : Text) (groups : List (Text × List Text)) :
    (appendGroup name value groups).map Prod.fst =
      if name ∈ groups.map Prod.fst then groups.map Prod.fst
      else groups.map Prod.fst ++ [name] := by
  induction groups with
  | nil => rfl
  | cons g groups ih =>
      by_cases hg : g.1 = name
      · simp [appendGroup, hg]
      · simp only [appendGroup, hg, if_false, List.map_cons, ih, List.mem_cons, Ne.symm hg,
          false_or]
        by_cases hname : name ∈ groups.map Prod.fst
        · rw [if_pos hname, if_pos hname]
        · rw [if_neg hname, if_neg hname, List.cons_append]

theorem nodup_appendGroup {name value : Text} {groups : List (Text × List Text)}
    (h : (groups.map Prod.fst).Nodup) :
    ((appendGroup name value groups).map Prod.fst).Nodup := by
  rw [names_appendGroup]
  split
  · exact h
  · next hnew =>
      refine List.nodup_append.2 ⟨h, by simp, fun n hn m hm => ?_⟩
      rw [List.mem_singleton.1 hm]
      exact fun heq => hnew (heq ▸ hn)

theorem values_ne_nil_appendGroup {name value : Text} {groups : List (Text × List Text)}
    (h : ∀ g ∈ groups, g.2 ≠ []) : ∀ g ∈ appendGroup name value groups, g.2 ≠ [] := by
  induction groups with
  | nil => simp [appendGroup]
  | cons g groups ih =>
      have hrest := ih fun x hx => h x (List.mem_cons_of_mem _ hx)
      intro x hx
      by_cases hg : g.1 = name
      · simp only [appendGroup, hg, if_true] at hx
        rcases List.mem_cons.1 hx with rfl | hx
        · simp
        · exact h x (List.mem_cons_of_mem _ hx)
      · simp only [appendGroup, hg, if_false] at hx
        rcases List.mem_cons.1 hx with rfl | hx
        · exact h _ List.mem_cons_self
        · exact hrest x hx

theorem Grouped.append {p : Params} (h : p.Grouped) (name value : Text) :
    (p.append name value).Grouped :=
  ⟨nodup_appendGroup h.nodup, values_ne_nil_appendGroup h.values_ne_nil⟩

/-! ### Parameters given one after the other -/

/-- The parameters with further pairs. -/
def appendPairs (p : Params) (pairs : List (Text × Text)) : Params :=
  pairs.foldl (fun p pair => p.append pair.1 pair.2) p

theorem appendPairs_append (p : Params) (a b : List (Text × Text)) :
    p.appendPairs (a ++ b) = (p.appendPairs a).appendPairs b := List.foldl_append

theorem Grouped.appendPairs {p : Params} (h : p.Grouped) (pairs : List (Text × Text)) :
    (p.appendPairs pairs).Grouped := by
  induction pairs generalizing p with
  | nil => exact h
  | cons pair pairs ih => exact ih (h.append pair.1 pair.2)

/-- Parameters given one after the other are grouped. -/
theorem grouped_ofPairs (pairs : List (Text × Text)) : (ofPairs pairs).Grouped :=
  Grouped.appendPairs ⟨by simp [empty], by simp [empty]⟩ pairs

/-- The values that pairs give to a name, in order. -/
def given (name : Text) (pairs : List (Text × Text)) : List Text :=
  (pairs.filter fun pair => pair.1 = name).map Prod.snd

theorem given_cons (name : Text) (pair : Text × Text) (pairs : List (Text × Text)) :
    given name (pair :: pairs) =
      if pair.1 = name then pair.2 :: given name pairs else given name pairs := by
  by_cases h : pair.1 = name
  · rw [if_pos h, given, List.filter_cons_of_pos (by simpa using h)]
    rfl
  · rw [if_neg h, given, List.filter_cons_of_neg (by simpa using h)]
    rfl

theorem get?_appendPairs (p : Params) (pairs : List (Text × Text)) (name : Text) :
    (p.appendPairs pairs).get? name =
      if given name pairs = [] then p.get? name
      else some ((p.get? name).getD [] ++ given name pairs) := by
  induction pairs generalizing p with
  | nil => rfl
  | cons pair pairs ih =>
      have hstep : p.appendPairs (pair :: pairs) =
          (p.append pair.1 pair.2).appendPairs pairs := rfl
      rw [hstep, ih, get?_append, given_cons]
      by_cases hname : pair.1 = name
      · by_cases hnil : given name pairs = []
        · simp [hname, hnil]
        · simp [hname, hnil]
      · simp [hname]

/-- The values of a name are those given to it, in order. -/
theorem get?_ofPairs (pairs : List (Text × Text)) (name : Text) :
    (ofPairs pairs).get? name =
      if given name pairs = [] then none else some (given name pairs) :=
  get?_appendPairs empty pairs name

/-! ### Pairs -/

theorem appendGroup_of_last {name value : Text} {groups : List (Text × List Text)}
    {values : List Text} (h : name ∉ groups.map Prod.fst) :
    appendGroup name value (groups ++ [(name, values)]) =
      groups ++ [(name, values ++ [value])] := by
  induction groups with
  | nil => simp [appendGroup]
  | cons g groups ih =>
      simp only [List.map_cons, List.mem_cons, not_or] at h
      simp [appendGroup, Ne.symm h.1, ih h.2]

theorem appendGroup_of_not_mem {name value : Text} {groups : List (Text × List Text)}
    (h : name ∉ groups.map Prod.fst) :
    appendGroup name value groups = groups ++ [(name, [value])] := by
  induction groups with
  | nil => rfl
  | cons g groups ih =>
      simp only [List.map_cons, List.mem_cons, not_or] at h
      simp [appendGroup, Ne.symm h.1, ih h.2]

theorem appendPairs_of_last {name : Text} {groups : List (Text × List Text)}
    (h : name ∉ groups.map Prod.fst) (found values : List Text) :
    appendPairs ⟨groups ++ [(name, found)]⟩ (values.map fun value => (name, value)) =
      ⟨groups ++ [(name, found ++ values)]⟩ := by
  induction values generalizing found with
  | nil => simp [appendPairs]
  | cons value values ih =>
      have hstep : appendPairs ⟨groups ++ [(name, found)]⟩
          ((value :: values).map fun value => (name, value)) =
            appendPairs ⟨appendGroup name value (groups ++ [(name, found)])⟩
              (values.map fun value => (name, value)) := rfl
      rw [hstep, appendGroup_of_last h, ih]
      simp

/-- The pairs of a group whose name is new make that group. -/
theorem appendPairs_group {name : Text} {groups : List (Text × List Text)} {values : List Text}
    (h : name ∉ groups.map Prod.fst) (hne : values ≠ []) :
    appendPairs ⟨groups⟩ (values.map fun value => (name, value)) =
      ⟨groups ++ [(name, values)]⟩ := by
  obtain ⟨value, values, rfl⟩ := List.exists_cons_of_ne_nil hne
  have hstep : appendPairs ⟨groups⟩ ((value :: values).map fun value => (name, value)) =
      appendPairs ⟨appendGroup name value groups⟩ (values.map fun value => (name, value)) := rfl
  rw [hstep, appendGroup_of_not_mem h, appendPairs_of_last h, List.singleton_append]

theorem mem_pairs {p : Params} {pair : Text × Text} :
    pair ∈ p.pairs ↔ ∃ g ∈ p.groups, g.1 = pair.1 ∧ pair.2 ∈ g.2 := by
  simp only [pairs, List.mem_flatMap, List.mem_map]
  constructor
  · rintro ⟨g, hg, v, hv, rfl⟩
    exact ⟨g, hg, rfl, hv⟩
  · rintro ⟨g, hg, hname, hv⟩
    exact ⟨g, hg, pair.2, hv, Prod.ext hname rfl⟩

/-- The pairs after one more value are that one and those before, in some order. -/
theorem pairs_append_perm (p : Params) (name value : Text) :
    (p.append name value).pairs.Perm ((name, value) :: p.pairs) := by
  obtain ⟨groups⟩ := p
  simp only [append, pairs]
  induction groups with
  | nil => exact List.Perm.refl _
  | cons g groups ih =>
      by_cases hg : g.1 = name
      · -- The new pair stands behind those of its own group.
        simp only [appendGroup, hg, if_true, List.flatMap_cons, List.map_append, List.map_cons,
          List.map_nil, List.append_assoc, List.singleton_append]
        exact List.perm_middle
      · simp only [appendGroup, hg, if_false, List.flatMap_cons]
        exact (ih.append_left _).trans List.perm_middle

theorem mem_pairs_append {p : Params} {name value : Text} {pair : Text × Text} :
    pair ∈ (p.append name value).pairs ↔ pair = (name, value) ∨ pair ∈ p.pairs :=
  (pairs_append_perm p name value).mem_iff.trans List.mem_cons

/-- Grouped parameters come back from their pairs. -/
theorem ofPairs_pairs {p : Params} (h : p.Grouped) : ofPairs p.pairs = p := by
  -- Group by group: the groups before are made already, and the next one has a new name.
  have key : ∀ rest done : List (Text × List Text),
      ((done ++ rest).map Prod.fst).Nodup → (∀ g ∈ rest, g.2 ≠ []) →
        appendPairs ⟨done⟩ (rest.flatMap fun g => g.2.map fun value => (g.1, value)) =
          ⟨done ++ rest⟩ := by
    intro rest
    induction rest with
    | nil => intro done _ _; simp [appendPairs]
    | cons g rest ih =>
        intro done hnodup hne
        have hnew : g.1 ∉ done.map Prod.fst := by
          rw [List.map_append, List.map_cons] at hnodup
          intro hm
          exact (List.nodup_append.1 hnodup).2.2 g.1 hm g.1 List.mem_cons_self rfl
        rw [List.flatMap_cons, appendPairs_append,
          appendPairs_group hnew (hne g List.mem_cons_self), ih]
        · simp
        · simpa using hnodup
        · exact fun x hx => hne x (List.mem_cons_of_mem _ hx)
  have h₀ := key p.groups [] (by simpa using h.nodup) h.values_ne_nil
  simpa [pairs, ofPairs, appendPairs, empty] using h₀

/-! ### One more value -/

/-- One more value is one more pair. -/
theorem length_pairs_append (p : Params) (name value : Text) :
    (p.append name value).pairs.length = p.pairs.length + 1 :=
  (pairs_append_perm p name value).length_eq

/-- Parameters with one more value tell which value it was, and of which name. -/
theorem append_inj {p : Params} {name name' value value' : Text}
    (h : p.append name value = p.append name' value') : name = name' ∧ value = value' := by
  have hget : (p.append name value).get? name = (p.append name' value').get? name := by rw [h]
  rw [get?_append, get?_append, if_pos rfl] at hget
  by_cases hname : name' = name
  · rw [if_pos hname, Option.some.injEq, List.append_cancel_left_eq, List.singleton_inj] at hget
    exact ⟨hname.symm, hget⟩
  · rw [if_neg hname] at hget
    cases hold : p.get? name with
    | none =>
        rw [hold] at hget
        exact absurd hget (by simp)
    | some values =>
        rw [hold, Option.getD_some, Option.some.injEq] at hget
        exact absurd hget (by simp)

end Params

end Pushdown
