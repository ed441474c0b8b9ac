/-
**Parameters group a row of pairs.**

Parameters that are given one pair after the other lose nothing of the row but the order between
different names.  One more value changes the names of parameters only if its name is new, and then
the name comes last; so the names are those of the row, in the order of their first occurrence.  The
values under a name are those that the row gives to it, and from the two everything else follows.

Main definitions:

* `Params.names` — the names of parameters, in order;
* `Params.firstNames` — the names of a row of pairs, in the order of their first occurrence;
* `Params.Groups` — what parameters that group a row are.

Main results:

* `Params.names_append`, `Params.names_ofPairs` — the names after one more value, and after a row;
* `Params.groups_ofPairs` — the groups of a row in closed form;
* `Params.pairs_ofPairs`, `Params.pairs_ofPairs_perm` — the pairs are those of the row, sorted by
  their names alone;
* `Params.ofPairs_groups` — **parameters given one after the other group their row**.
-/

import Mathlib.Data.List.Induction
import Mathlib.Data.List.Perm.Basic
import Pushdown.Proofs.Table.Params

set_option autoImplicit false

namespace Pushdown

namespace Params

/-! ### Names -/

/-- The names of parameters, in order. -/
def names (p : Params) : List Text := p.groups.map Prod.fst

/-- The names of a row of pairs, in the order of their first occurrence. -/
def firstNames (row : List (Text × Text)) : List Text := (row.map Prod.fst).eraseDups

/-- A new name comes last, and one that is there already stays where it is. -/
theorem names_append (p : Params) (name value : Text) :
    (p.append name value).names = if name ∈ p.names then p.names else p.names ++ [name] :=
  names_appendGroup name value p.groups

/-- One more pair brings its name to the end of the row, if the name is new. -/
theorem firstNames_concat (row : List (Text × Text)) (pair : Text × Text) :
    firstNames (row ++ [pair]) =
      if pair.1 ∈ firstNames row then firstNames row else firstNames row ++ [pair.1] := by
  have hmem : pair.1 ∈ firstNames row ↔ pair.1 ∈ row.map Prod.fst := List.mem_eraseDups
  rw [firstNames, List.map_append, List.eraseDups_append]
  by_cases h : pair.1 ∈ row.map Prod.fst
  · rw [if_pos (hmem.2 h)]
    have hnone : (List.map Prod.fst [pair]).removeAll (row.map Prod.fst) = [] := by
      simpa [List.removeAll] using h
    rw [hnone]
    exact List.append_nil _
  · rw [if_neg fun hm => h (hmem.1 hm)]
    have hnew : (List.map Prod.fst [pair]).removeAll (row.map Prod.fst) = [pair.1] := by
      simpa [List.removeAll] using h
    rw [hnew]
    rfl

theorem ofPairs_concat (row : List (Text × Text)) (pair : Text × Text) :
    ofPairs (row ++ [pair]) = (ofPairs row).append pair.1 pair.2 := List.foldl_append

/-- The names of parameters are those of their row, in the order of their first occurrence. -/
theorem names_ofPairs (row : List (Text × Text)) : (ofPairs row).names = firstNames row := by
  induction row using List.reverseRecOn with
  | nil => rfl
  | append_singleton row pair ih => rw [ofPairs_concat, names_append, firstNames_concat, ih]

/-! ### Groups -/

/-- Groups with different names are told by their names and the values found under them. -/
theorem eq_map_lookup {groups : List (Text × List Text)} (h : (groups.map Prod.fst).Nodup) :
    groups = (groups.map Prod.fst).map fun name =>
      (name, (Dictionary.lookup name groups).getD []) := by
  induction groups with
  | nil => rfl
  | cons g groups ih =>
      obtain ⟨hnew, hrest⟩ := List.nodup_cons.1 h
      have hhead : Dictionary.lookup g.1 (g :: groups) = some g.2 := by
        simp [Dictionary.lookup]
      have htail : ∀ name ∈ groups.map Prod.fst,
          Dictionary.lookup name (g :: groups) = Dictionary.lookup name groups := by
        intro name hname
        have hne : g.1 ≠ name := fun heq => hnew (heq ▸ hname)
        simp [Dictionary.lookup, hne]
      rw [List.map_cons, List.map_cons, hhead]
      refine congrArg (g :: ·) ((ih hrest).trans (List.map_congr_left fun name hname => ?_))
      rw [htail name hname]

/-- The groups of a row: each of its names with the values that the row gives to it. -/
theorem groups_ofPairs (row : List (Text × Text)) :
    (ofPairs row).groups = (firstNames row).map fun name => (name, given name row) := by
  have hgroups := eq_map_lookup (grouped_ofPairs row).nodup
  have hnames : (ofPairs row).groups.map Prod.fst = firstNames row := names_ofPairs row
  rw [hgroups, hnames]
  refine List.map_congr_left fun name _ => ?_
  have hget : Dictionary.lookup name (ofPairs row).groups = _ := get?_ofPairs row name
  rw [hget]
  split
  · next hnil => rw [hnil]; rfl
  · rfl

/-! ### Pairs -/

/-- The values that a row gives to a name, under that name, are the pairs of the row that have it. -/
theorem map_given (name : Text) (row : List (Text × Text)) :
    (given name row).map (fun value => (name, value)) = row.filter fun pair => pair.1 = name := by
  rw [given, List.map_map]
  refine (List.map_congr_left fun pair hpair => ?_).trans (List.map_id _)
  have hname : pair.1 = name := by simpa using (List.mem_filter.1 hpair).2
  exact Prod.ext hname.symm rfl

/-- The pairs of the row, name by name, each time in the order of the row. -/
theorem pairs_ofPairs (row : List (Text × Text)) :
    (ofPairs row).pairs =
      (firstNames row).flatMap fun name => row.filter fun pair => pair.1 = name := by
  rw [pairs, groups_ofPairs, List.flatMap_map]
  exact List.flatMap_congr fun name _ => map_given name row

/-- No pair of the row is lost and none is added. -/
theorem pairs_ofPairs_perm (row : List (Text × Text)) : (ofPairs row).pairs.Perm row := by
  induction row using List.reverseRecOn with
  | nil => exact List.Perm.refl _
  | append_singleton row pair ih =>
      have hstep := pairs_append_perm (ofPairs row) pair.1 pair.2
      rw [ofPairs_concat]
      exact (hstep.trans (ih.cons pair)).trans (List.perm_append_singleton pair row).symm

/-- There are no parameters exactly if there was no pair. -/
theorem isEmpty_ofPairs_iff (row : List (Text × Text)) :
    (ofPairs row).isEmpty = true ↔ row = [] := by
  rw [isEmpty, List.isEmpty_iff]
  constructor
  · intro hnil
    have hpairs : (ofPairs row).pairs = [] := by rw [pairs, hnil]; rfl
    exact List.nil_perm.1 (hpairs ▸ pairs_ofPairs_perm row)
  · rintro rfl
    rfl

/-! ### Rows of pairs -/

/-- What parameters that group a row of pairs are. -/
structure Groups (row : List (Text × Text)) (p : Params) : Prop where
  /-- Every name stands once and has at least one value. -/
  grouped : p.Grouped
  /-- The names stand in the order of their first occurrence. -/
  names : p.names = firstNames row
  /-- Only an empty row leaves no parameters. -/
  isEmpty : p.isEmpty = true ↔ row = []
  /-- The values of a name are those that the row gives to it, in order. -/
  get : ∀ name, p.get? name = if given name row = [] then none else some (given name row)
  /-- The pairs are those of the row, name by name, each time in the order of the row. -/
  pairs : p.pairs = (firstNames row).flatMap fun name => row.filter fun pair => pair.1 = name
  /-- No pair is lost and none is added. -/
  perm : p.pairs.Perm row
  /-- The JSON object has one member for each name, and no two of the same name. -/
  json : ∃ members, p.toJson = .object members ∧ members.map Prod.fst = p.names ∧
    (members.map Prod.fst).Nodup

/-- **Parameters given one after the other group their row**, with as many pairs as the row has, and
are the same parameters if their pairs are given once more. -/
theorem ofPairs_groups (row : List (Text × Text)) :
    (ofPairs row).Groups row ∧ (ofPairs row).pairs.length = row.length ∧
      ofPairs (ofPairs row).pairs = ofPairs row := by
  have hgrouped := grouped_ofPairs row
  refine ⟨?_, (pairs_ofPairs_perm row).length_eq, ofPairs_pairs hgrouped⟩
  refine ⟨hgrouped, names_ofPairs row, isEmpty_ofPairs_iff row, get?_ofPairs row,
    pairs_ofPairs row, pairs_ofPairs_perm row, _, rfl, ?_, ?_⟩
  · rw [List.map_map]
    rfl
  · rw [List.map_map]
    exact hgrouped.nodup

end Params

end Pushdown
