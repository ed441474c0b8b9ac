/-
**What a pruned condition means.**

The leaves of a condition are true, false or unknown, and `AND` and `OR` combine these values.  A
condition that is pruned goes two ways: the bindings are answered by the request, and the rest is
checked on the rows that come back.  A row that passes both passed the condition.  The converse
fails where a binding stands under an `OR`, since the request then leaves out rows that the other
side would have let through.

Main definitions:

* `Sql.Truth` — the three truth values;
* `Sql.Expr.truth` — the value of a condition, given the values of its leaves from left to right;
* `Sql.Expr.takenAt` — the leaves of a condition that are bindings, with the ways to them;
* `Sql.Expr.Pushed` — the bindings hold, and what is left holds.

Main results:

* `Sql.Expr.pushed_and`, `Sql.Expr.pushed_or` — pruning under one connective;
* `Sql.Expr.prune_sound` — **what passes the bindings and the rest passes the condition**, and
  conversely if no binding stands under an `OR`.
-/

import Pushdown.Proofs.Binding.Condition

set_option autoImplicit false

namespace Pushdown

namespace Sql

/-! ### Truth values -/

/-- The truth value of a condition on a row. -/
inductive Truth where
  | holds
  | fails
  | unknown
  deriving DecidableEq, Repr

namespace Truth

/-- Both sides hold, or one of them fails. -/
def and : Truth → Truth → Truth
  | holds, b => b
  | fails, _ => fails
  | unknown, fails => fails
  | unknown, _ => unknown

/-- One side holds, or both fail. -/
def or : Truth → Truth → Truth
  | fails, b => b
  | holds, _ => holds
  | unknown, holds => holds
  | unknown, _ => unknown

theorem and_eq_holds_iff {a b : Truth} : a.and b = holds ↔ a = holds ∧ b = holds := by
  cases a <;> cases b <;> decide

theorem or_eq_holds_iff {a b : Truth} : a.or b = holds ↔ a = holds ∨ b = holds := by
  cases a <;> cases b <;> decide

end Truth

/-- The value of a condition whose leaves have the given values from left to right. -/
def Expr.truth : Expr → List Truth → Truth
  | .binary .and left right, values =>
      (left.truth (values.take left.leavesAt.length)).and
        (right.truth (values.drop left.leavesAt.length))
  | .binary .or left right, values =>
      (left.truth (values.take left.leavesAt.length)).or
        (right.truth (values.drop left.leavesAt.length))
  | .nested inner, values => inner.truth values
  | _, values => values.headD .unknown

theorem Expr.truth_and {left right : Expr} {a b : List Truth}
    (ha : a.length = left.leavesAt.length) :
    (Expr.binary .and left right).truth (a ++ b) = (left.truth a).and (right.truth b) := by
  rw [truth, ← ha, List.take_left, List.drop_left]

theorem Expr.truth_or {left right : Expr} {a b : List Truth}
    (ha : a.length = left.leavesAt.length) :
    (Expr.binary .or left right).truth (a ++ b) = (left.truth a).or (right.truth b) := by
  rw [truth, ← ha, List.take_left, List.drop_left]

theorem Expr.truth_leaf {e : Expr} (h : e.isLeaf = true) (value : Truth) :
    e.truth [value] = value := by
  unfold isLeaf at h
  split at h <;> simp_all [truth]

/-- A clause holds on leaves with the given values, or is absent. -/
def Expr.HoldsOf : Option Expr → List Truth → Prop
  | none, _ => True
  | some e, values => e.truth values = .holds

theorem Expr.holdsOf_and {left right : Option Expr} {a b : List Truth}
    (ha : a.length = (leavesOf left).length) (hb : b.length = (leavesOf right).length) :
    HoldsOf (connect .and left right) (a ++ b) ↔ HoldsOf left a ∧ HoldsOf right b := by
  cases left with
  | none =>
      rw [List.length_eq_zero_iff.1 ha, List.nil_append]
      exact (and_iff_right trivial).symm
  | some left =>
      cases right with
      | none =>
          rw [List.length_eq_zero_iff.1 hb, List.append_nil]
          exact (and_iff_left trivial).symm
      | some right =>
          simp only [connect, HoldsOf, truth_and ha, Truth.and_eq_holds_iff]

/-- An `OR` that lost a side is weaker than the side that is left. -/
theorem Expr.holdsOf_or {left right : Option Expr} {a b : List Truth}
    (ha : a.length = (leavesOf left).length) (h : HoldsOf (connect .or left right) (a ++ b)) :
    HoldsOf left a ∨ HoldsOf right b := by
  cases left with
  | none => exact Or.inl trivial
  | some left =>
      cases right with
      | none => exact Or.inr trivial
      | some right =>
          simp only [connect, HoldsOf, truth_or ha, Truth.or_eq_holds_iff] at h
          exact h

/-! ### Leaves that are taken -/

section

variable (w : Whitelist)

/-- The leaves of a condition that are bindings, with the ways to them. -/
def Expr.takenAt (e : Expr) : List (List Step × Expr) :=
  e.leavesAt.filter fun leaf => (leaf.2.binding? w).isSome

theorem Expr.takenAt_connective {op : Operator} (h : op.IsConnective) (left right : Expr) :
    (Expr.binary op left right).takenAt w =
      (left.takenAt w).map (Step.left op).before ++
        (right.takenAt w).map (Step.right op).before := by
  rw [takenAt, leavesAt_connective h, List.filter_append, List.filter_map, List.filter_map]
  rfl

theorem Expr.takenAt_nested (inner : Expr) :
    (Expr.nested inner).takenAt w = (inner.takenAt w).map Step.inside.before := by
  rw [takenAt, leavesAt, List.filter_map]
  rfl

theorem Expr.takenAt_leaf {e : Expr} (h : e.isLeaf = true) :
    e.takenAt w = if (e.binding? w).isSome then [([], e)] else [] := by
  rw [takenAt, leavesAt_leaf h, List.filter_cons, List.filter_nil]

/-- Without a query inside, the bindings of a condition are the leaves that are taken. -/
theorem Expr.prune_taken {e : Expr} (hq : e.queries = []) :
    (e.prune w true).2 = (e.takenAt w).filterMap fun leaf => leaf.2.binding? w := by
  induction e using Expr.skeleton_induction with
  | connective op left right hop ihl ihr =>
      have hqueries : left.queries ++ right.queries = [] := by
        rcases hop with rfl | rfl <;> exact hq
      obtain ⟨hl, hr⟩ := List.append_eq_nil_iff.1 hqueries
      rw [prune_connective w hop, takenAt_connective w hop, List.filterMap_append,
        List.filterMap_map, List.filterMap_map, ihl hl, ihr hr]
      rfl
  | nested inner ih =>
      rw [takenAt_nested, List.filterMap_map]
      exact ih hq
  | leaf e he =>
      rw [prune_leaf w he, takenAt_leaf w he]
      cases hb : e.binding? w with
      | some b => simp [hb]
      | none => simp [prune_false, hq]

/-- Without a query inside, a leaf has no query inside. -/
theorem Expr.queries_of_mem_leavesAt {e : Expr} (hq : e.queries = []) :
    ∀ leaf ∈ e.leavesAt, leaf.2.queries = [] := by
  induction e using Expr.skeleton_induction with
  | connective op left right hop ihl ihr =>
      have hqueries : left.queries ++ right.queries = [] := by
        rcases hop with rfl | rfl <;> exact hq
      obtain ⟨hl, hr⟩ := List.append_eq_nil_iff.1 hqueries
      intro leaf hleaf
      rw [leavesAt_connective hop] at hleaf
      rcases List.mem_append.1 hleaf with hleaf | hleaf
      · obtain ⟨l, hmem, rfl⟩ := List.mem_map.1 hleaf
        exact ihl hl l hmem
      · obtain ⟨l, hmem, rfl⟩ := List.mem_map.1 hleaf
        exact ihr hr l hmem
  | nested inner ih =>
      intro leaf hleaf
      obtain ⟨l, hmem, rfl⟩ := List.mem_map.1 hleaf
      exact ih hq l hmem
  | leaf e he =>
      intro leaf hleaf
      rw [leavesAt_leaf he] at hleaf
      rw [List.mem_singleton.1 hleaf]
      exact hq

/-- A condition without a query inside does not change with its queries. -/
theorem Expr.mapQueries_of_queries_eq_nil (f : Query → Query) :
    ∀ {e : Expr}, e.queries = [] → e.mapQueries f = e
  | .unary op operand, hq => congrArg (Expr.unary op) (mapQueries_of_queries_eq_nil f hq)
  | .binary .and left right, hq => by
      obtain ⟨hl, hr⟩ := List.append_eq_nil_iff.1 hq
      rw [mapQueries, mapQueries_of_queries_eq_nil f hl, mapQueries_of_queries_eq_nil f hr]
  | .binary .or left right, hq => by
      obtain ⟨hl, hr⟩ := List.append_eq_nil_iff.1 hq
      rw [mapQueries, mapQueries_of_queries_eq_nil f hl, mapQueries_of_queries_eq_nil f hr]
  | .nested inner, hq => congrArg Expr.nested (mapQueries_of_queries_eq_nil f hq)
  | .subquery _, hq => absurd hq (List.cons_ne_nil _ _)
  | .existence _ _, hq => absurd hq (List.cons_ne_nil _ _)
  | .binary .eq _ _, _ => rfl
  | .binary (.other _) _ _, _ => rfl
  | .ident _, _ => rfl
  | .literal _, _ => rfl
  | .compound _, _ => rfl
  | .call _, _ => rfl
  | .inList _ _ _, _ => rfl
  | .other _, _ => rfl

/-- Without a query inside, what is left has the leaves that were kept, as they were. -/
theorem Expr.leavesOf_prune_snd {e : Expr} (hq : e.queries = []) :
    (leavesOf (e.prune w true).1).map Prod.snd = (e.keptAt w).map Prod.snd := by
  rw [leavesAt_prune, List.map_map]
  refine List.map_congr_left fun leaf hleaf => ?_
  have hmem : leaf ∈ e.leavesAt := (List.mem_filter.1 hleaf).1
  exact mapQueries_of_queries_eq_nil _ (queries_of_mem_leavesAt hq leaf hmem)

/-! ### Pruning under one connective -/

/-- The bindings of a condition hold, and what is left holds or is absent; `value` gives every leaf
its value. -/
def Expr.Pushed (value : List Step × Expr → Truth) (e : Expr) : Prop :=
  (∀ leaf ∈ e.takenAt w, value leaf = .holds) ∧
    HoldsOf (e.prune w true).1 ((e.keptAt w).map value)

theorem Expr.length_kept (value : List Step × Expr → Truth) (e : Expr) :
    ((e.keptAt w).map value).length = (leavesOf (e.prune w true).1).length := by
  rw [leavesAt_prune, List.length_map, List.length_map]

/-- The leaves of a connective hold if those of its sides do. -/
theorem Expr.forall_takenAt_connective {op : Operator} (h : op.IsConnective) (left right : Expr)
    (P : List Step × Expr → Prop) :
    (∀ leaf ∈ (Expr.binary op left right).takenAt w, P leaf) ↔
      (∀ leaf ∈ left.takenAt w, P ((Step.left op).before leaf)) ∧
        ∀ leaf ∈ right.takenAt w, P ((Step.right op).before leaf) := by
  rw [takenAt_connective w h, List.forall_mem_append, List.forall_mem_map, List.forall_mem_map]

theorem Expr.pushed_and {value : List Step × Expr → Truth} {left right : Expr} :
    (Expr.binary .and left right).Pushed w value ↔
      left.Pushed w (value ∘ (Step.left .and).before) ∧
        right.Pushed w (value ∘ (Step.right .and).before) := by
  have hop : Operator.IsConnective .and := Or.inl rfl
  rw [Pushed, Pushed, Pushed, forall_takenAt_connective w hop, prune_connective w hop,
    keptAt_connective w hop, List.map_append, List.map_map, List.map_map,
    holdsOf_and (length_kept w _ left) (length_kept w _ right)]
  exact and_and_and_comm

/-- What is pushed out of an `OR` is pushed out of one of its sides. -/
theorem Expr.pushed_or {value : List Step × Expr → Truth} {left right : Expr}
    (h : (Expr.binary .or left right).Pushed w value) :
    left.Pushed w (value ∘ (Step.left .or).before) ∨
      right.Pushed w (value ∘ (Step.right .or).before) := by
  have hop : Operator.IsConnective .or := Or.inr rfl
  obtain ⟨htaken, hrest⟩ := h
  obtain ⟨hl, hr⟩ := (forall_takenAt_connective w hop left right _).1 htaken
  rw [prune_connective w hop, keptAt_connective w hop, List.map_append, List.map_map,
    List.map_map] at hrest
  rcases holdsOf_or (length_kept w _ left) hrest with hrest | hrest
  · exact Or.inl ⟨hl, hrest⟩
  · exact Or.inr ⟨hr, hrest⟩

/-- Without a leaf that is taken something is left. -/
theorem Expr.exists_of_takenAt_eq_nil {e : Expr} (h : e.takenAt w = []) :
    ∃ r, (e.prune w true).1 = some r := by
  cases hr : (e.prune w true).1 with
  | some r => exact ⟨r, rfl⟩
  | none =>
      obtain ⟨leaf, hleaf⟩ := List.exists_mem_of_ne_nil _ (leavesAt_ne_nil e)
      obtain ⟨b, hb⟩ := (prune_eq_none_iff w e).1 hr leaf hleaf
      have hmem : leaf ∈ e.takenAt w :=
        List.mem_filter.2 ⟨hleaf, by rw [binding?_eq_some_iff.2 hb]; rfl⟩
      rw [h] at hmem
      exact absurd hmem List.not_mem_nil

/-- An `OR` from which nothing is taken is pushed if one of its sides is. -/
theorem Expr.pushed_or_of_takenAt_eq_nil {value : List Step × Expr → Truth} {left right : Expr}
    (hl : left.takenAt w = []) (hr : right.takenAt w = [])
    (h : left.Pushed w (value ∘ (Step.left .or).before) ∨
      right.Pushed w (value ∘ (Step.right .or).before)) :
    (Expr.binary .or left right).Pushed w value := by
  have hop : Operator.IsConnective .or := Or.inr rfl
  obtain ⟨l, hl'⟩ := exists_of_takenAt_eq_nil w hl
  obtain ⟨r, hr'⟩ := exists_of_takenAt_eq_nil w hr
  have hlength := length_kept w (value ∘ (Step.left .or).before) left
  simp only [Pushed, hl', hr', HoldsOf] at h hlength
  rw [Pushed, takenAt_connective w hop, hl, hr, prune_connective w hop, keptAt_connective w hop,
    List.map_append, List.map_map, List.map_map, hl', hr']
  refine ⟨fun leaf hleaf => absurd hleaf List.not_mem_nil, ?_⟩
  simp only [connect, HoldsOf, truth_or hlength, Truth.or_eq_holds_iff]
  exact h.imp And.right And.right

theorem Expr.pushed_nested {value : List Step × Expr → Truth} {inner : Expr} :
    (Expr.nested inner).Pushed w value ↔ inner.Pushed w (value ∘ Step.inside.before) := by
  have hrest (values : List Truth) : HoldsOf ((Expr.nested inner).prune w true).1 values ↔
      HoldsOf (inner.prune w true).1 values := by
    simp only [prune]
    cases (inner.prune w true).1 <;> rfl
  rw [Pushed, Pushed, takenAt_nested, keptAt_nested, List.forall_mem_map, List.map_map, hrest]
  rfl

/-- A leaf is pushed exactly if it holds, be it taken or kept. -/
theorem Expr.pushed_leaf {value : List Step × Expr → Truth} {e : Expr} (h : e.isLeaf = true) :
    e.Pushed w value ↔ value ([], e) = .holds := by
  rw [Pushed, takenAt_leaf w h, keptAt_leaf w h, prune_leaf w h]
  cases e.binding? w with
  | some b => simp [HoldsOf]
  | none =>
      have hleaf := (isLeaf_mapQueries (Query.residual w) e).trans h
      simp [HoldsOf, prune_false, truth_leaf hleaf]

/-! ### Pruning a condition -/

theorem Expr.truth_leavesAt_and (value : List Step × Expr → Truth) (left right : Expr) :
    (Expr.binary .and left right).truth ((Expr.binary .and left right).leavesAt.map value) =
      (left.truth (left.leavesAt.map (value ∘ (Step.left .and).before))).and
        (right.truth (right.leavesAt.map (value ∘ (Step.right .and).before))) := by
  rw [leavesAt_connective (Or.inl rfl), List.map_append, List.map_map, List.map_map,
    truth_and (List.length_map _)]

theorem Expr.truth_leavesAt_or (value : List Step × Expr → Truth) (left right : Expr) :
    (Expr.binary .or left right).truth ((Expr.binary .or left right).leavesAt.map value) =
      (left.truth (left.leavesAt.map (value ∘ (Step.left .or).before))).or
        (right.truth (right.leavesAt.map (value ∘ (Step.right .or).before))) := by
  rw [leavesAt_connective (Or.inr rfl), List.map_append, List.map_map, List.map_map,
    truth_or (List.length_map _)]

theorem Expr.truth_leavesAt_nested (value : List Step × Expr → Truth) (inner : Expr) :
    (Expr.nested inner).truth ((Expr.nested inner).leavesAt.map value) =
      inner.truth (inner.leavesAt.map (value ∘ Step.inside.before)) := by
  rw [leavesAt, List.map_map, truth]

/-- What passes the bindings and the rest passes the condition. -/
theorem Expr.Pushed.truth {value : List Step × Expr → Truth} {e : Expr} (h : e.Pushed w value) :
    e.truth (e.leavesAt.map value) = .holds := by
  induction e using Expr.skeleton_induction generalizing value with
  | connective op left right hop ihl ihr =>
      rcases hop with rfl | rfl
      · obtain ⟨hl, hr⟩ := (pushed_and w).1 h
        rw [truth_leavesAt_and, Truth.and_eq_holds_iff]
        exact ⟨ihl hl, ihr hr⟩
      · rw [truth_leavesAt_or, Truth.or_eq_holds_iff]
        exact (pushed_or w h).imp ihl ihr
  | nested inner ih =>
      rw [truth_leavesAt_nested]
      exact ih ((pushed_nested w).1 h)
  | leaf e he =>
      rw [leavesAt_leaf he, List.map_singleton, truth_leaf he]
      exact (pushed_leaf w he).1 h

/-- No leaf that is taken stands under an `OR`. -/
def Expr.TakesOutsideOr (e : Expr) : Prop :=
  ∀ leaf ∈ e.takenAt w, ∀ step ∈ leaf.1, step ≠ .left .or ∧ step ≠ .right .or

theorem Expr.TakesOutsideOr.and {left right : Expr}
    (h : (Expr.binary .and left right).TakesOutsideOr w) :
    left.TakesOutsideOr w ∧ right.TakesOutsideOr w := by
  obtain ⟨hl, hr⟩ := (forall_takenAt_connective w (Or.inl rfl) left right _).1 h
  exact ⟨fun leaf hleaf step hstep => hl leaf hleaf step (List.mem_cons_of_mem _ hstep),
    fun leaf hleaf step hstep => hr leaf hleaf step (List.mem_cons_of_mem _ hstep)⟩

/-- Nothing is taken out of an `OR` then. -/
theorem Expr.TakesOutsideOr.or {left right : Expr}
    (h : (Expr.binary .or left right).TakesOutsideOr w) :
    left.takenAt w = [] ∧ right.takenAt w = [] := by
  obtain ⟨hl, hr⟩ := (forall_takenAt_connective w (Or.inr rfl) left right _).1 h
  refine ⟨List.eq_nil_iff_forall_not_mem.2 fun leaf hleaf => ?_,
    List.eq_nil_iff_forall_not_mem.2 fun leaf hleaf => ?_⟩
  · exact (hl leaf hleaf _ List.mem_cons_self).1 rfl
  · exact (hr leaf hleaf _ List.mem_cons_self).2 rfl

theorem Expr.TakesOutsideOr.nested {inner : Expr} (h : (Expr.nested inner).TakesOutsideOr w) :
    inner.TakesOutsideOr w := by
  rw [TakesOutsideOr, takenAt_nested, List.forall_mem_map] at h
  exact fun leaf hleaf step hstep => h leaf hleaf step (List.mem_cons_of_mem _ hstep)

theorem Expr.takesOutsideOr_of_takenAt_eq_nil {e : Expr} (h : e.takenAt w = []) :
    e.TakesOutsideOr w := by
  rw [TakesOutsideOr, h]
  exact fun leaf hleaf => absurd hleaf List.not_mem_nil

/-- What passes the condition passes the bindings and the rest, if no binding stands under an
`OR`. -/
theorem Expr.pushed_of_truth {value : List Step × Expr → Truth} {e : Expr}
    (hor : e.TakesOutsideOr w) (h : e.truth (e.leavesAt.map value) = .holds) :
    e.Pushed w value := by
  induction e using Expr.skeleton_induction generalizing value with
  | connective op left right hop ihl ihr =>
      rcases hop with rfl | rfl
      · obtain ⟨horl, horr⟩ := hor.and
        rw [truth_leavesAt_and, Truth.and_eq_holds_iff] at h
        exact (pushed_and w).2 ⟨ihl horl h.1, ihr horr h.2⟩
      · obtain ⟨hl, hr⟩ := hor.or
        rw [truth_leavesAt_or, Truth.or_eq_holds_iff] at h
        exact pushed_or_of_takenAt_eq_nil w hl hr
          (h.imp (ihl (takesOutsideOr_of_takenAt_eq_nil w hl))
            (ihr (takesOutsideOr_of_takenAt_eq_nil w hr)))
  | nested inner ih =>
      rw [truth_leavesAt_nested] at h
      exact (pushed_nested w).2 (ih hor.nested h)
  | leaf e he =>
      rw [leavesAt_leaf he, List.map_singleton, truth_leaf he] at h
      exact (pushed_leaf w he).2 h

end

/-- **Pruning is sound.**  Let a condition have no query inside.  Its bindings are the leaves that
are taken, and what is left has the other leaves as they were.  Whatever values the leaves have, the
condition holds if the leaves that are taken hold and what is left holds or is absent; and the
converse is true if no leaf that is taken stands under an `OR`. -/
theorem Expr.prune_sound (w : Whitelist) {e : Expr} (hq : e.queries = [])
    (value : List Step × Expr → Truth) :
    (e.prune w true).2 = (e.takenAt w).filterMap (fun leaf => leaf.2.binding? w) ∧
      (leavesOf (e.prune w true).1).map Prod.snd = (e.keptAt w).map Prod.snd ∧
      (e.Pushed w value → e.truth (e.leavesAt.map value) = .holds) ∧
      (e.TakesOutsideOr w → e.truth (e.leavesAt.map value) = .holds → e.Pushed w value) :=
  ⟨prune_taken w hq, leavesOf_prune_snd w hq, Pushed.truth w, pushed_of_truth w⟩

/-- The condition `QUERY_PARAMa = 1 AND ((NOT QUERY_PARAMb = 2 OR c = 3) AND HEADERh IN (4))`. -/
def guardedCondition : Expr :=
  let column (name : String) : Expr := .ident ⟨name.toList, none⟩
  let number (digits : String) : Expr := .literal (.plain digits.toList)
  let negation : Expr :=
    .unary ⟨"NOT".toList, .spaced⟩ (.binary .eq (column "QUERY_PARAMb") (number "2"))
  .binary .and (.binary .eq (column "QUERY_PARAMa") (number "1"))
    (.nested (.binary .and
      (.nested (.binary .or negation (.binary .eq (column "c") (number "3"))))
      (.inList (column "HEADERh") [number "4"] false)))

/-- On a row without a value for `b` the condition holds by its other leaves, and so do its bindings
and its rest. -/
theorem pushed_guardedCondition :
    let value (leaf : List Step × Expr) : Truth :=
      if leaf.1.getLast? = some (.left .or) then .unknown else .holds
    guardedCondition.queries = [] ∧ guardedCondition.TakesOutsideOr Whitelist.empty ∧
      guardedCondition.truth (guardedCondition.leavesAt.map value) = .holds ∧
      guardedCondition.Pushed Whitelist.empty value := by
  intro value
  have hq : guardedCondition.queries = [] := rfl
  have hor : guardedCondition.TakesOutsideOr Whitelist.empty := by
    unfold Expr.TakesOutsideOr
    decide +kernel
  have htruth : guardedCondition.truth (guardedCondition.leavesAt.map value) = .holds := by
    decide +kernel
  obtain ⟨-, -, hforth, hback⟩ := Expr.prune_sound Whitelist.empty hq value
  have hpushed := hback hor htruth
  exact ⟨hq, hor, hforth hpushed, hpushed⟩

end Sql

end Pushdown
