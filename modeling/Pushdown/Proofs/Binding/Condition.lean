/-
**Conditions without their bindings.**

A condition is a tree of leaves under `AND`, `OR` and parentheses.  Pruning takes the leaves that
are bindings out of it: the other leaves stay in order, a connective that keeps a leaf on one side
only drops out, and nothing is left exactly if every leaf is a binding.  Inside a leaf only queries
change.

Main definitions:

* `Sql.Expr.leavesAt` — the leaves of a condition with the way to each of them;
* `Sql.contract` — a way without the connectives that drop out;
* `Sql.IsBinding` — a leaf is a binding;
* `Sql.Expr.queries`, `Sql.Expr.mapQueries` — the queries inside a leaf.

Main results:

* `Sql.Expr.prune_false` — where nothing may be taken, only queries change;
* `Sql.Expr.leavesAt_prune` — the leaves of a pruned condition and the ways to them;
* `Sql.Expr.prune_eq_none_iff` — a condition disappears exactly if every leaf is a binding.
-/

import Pushdown.Binding.Extraction

set_option autoImplicit false

namespace Pushdown

namespace Sql

/-! ### Leaves -/

/-- The operators that join conditions. -/
def Operator.IsConnective (op : Operator) : Prop := op = .and ∨ op = .or

/-- Whether a condition is neither joined of two conditions nor in parentheses. -/
def Expr.isLeaf : Expr → Bool
  | .binary .and _ _ => false
  | .binary .or _ _ => false
  | .nested _ => false
  | _ => true

/-- A step from the root of a condition towards a leaf. -/
inductive Step where
  | left (op : Operator)
  | right (op : Operator)
  /-- Into parentheses. -/
  | inside
  deriving DecidableEq, Repr

/-- A leaf with one step in front of the way to it. -/
def Step.before (s : Step) (leaf : List Step × Expr) : List Step × Expr := (s :: leaf.1, leaf.2)

/-- The leaves of a condition from left to right, each with the way to it. -/
def Expr.leavesAt : Expr → List (List Step × Expr)
  | .binary .and left right =>
      left.leavesAt.map (Step.left .and).before ++ right.leavesAt.map (Step.right .and).before
  | .binary .or left right =>
      left.leavesAt.map (Step.left .or).before ++ right.leavesAt.map (Step.right .or).before
  | .nested inner => inner.leavesAt.map Step.inside.before
  | e => [([], e)]

/-- The leaves of a clause that may be absent. -/
def Expr.leavesOf : Option Expr → List (List Step × Expr)
  | none => []
  | some e => e.leavesAt

/-- Induction along the connectives and parentheses of a condition. -/
theorem Expr.skeleton_induction {motive : Expr → Prop}
    (connective : ∀ op left right, op.IsConnective → motive left → motive right →
      motive (.binary op left right))
    (nested : ∀ inner, motive inner → motive (.nested inner))
    (leaf : ∀ e, e.isLeaf = true → motive e) : ∀ e, motive e
  | .binary .and left right =>
      connective _ _ _ (Or.inl rfl) (skeleton_induction connective nested leaf left)
        (skeleton_induction connective nested leaf right)
  | .binary .or left right =>
      connective _ _ _ (Or.inr rfl) (skeleton_induction connective nested leaf left)
        (skeleton_induction connective nested leaf right)
  | .nested inner => nested _ (skeleton_induction connective nested leaf inner)
  | .binary .eq _ _ => leaf _ rfl
  | .binary (.other _) _ _ => leaf _ rfl
  | .ident _ => leaf _ rfl
  | .literal _ => leaf _ rfl
  | .compound _ => leaf _ rfl
  | .call _ => leaf _ rfl
  | .unary _ _ => leaf _ rfl
  | .inList _ _ _ => leaf _ rfl
  | .existence _ _ => leaf _ rfl
  | .subquery _ => leaf _ rfl
  | .other _ => leaf _ rfl

theorem Expr.leavesAt_connective {op : Operator} (h : op.IsConnective) (left right : Expr) :
    (Expr.binary op left right).leavesAt =
      left.leavesAt.map (Step.left op).before ++ right.leavesAt.map (Step.right op).before := by
  rcases h with rfl | rfl <;> rfl

theorem Expr.leavesAt_leaf {e : Expr} (h : e.isLeaf = true) : e.leavesAt = [([], e)] := by
  unfold isLeaf at h
  split at h <;> simp_all [leavesAt]

theorem Expr.leavesAt_ne_nil (e : Expr) : e.leavesAt ≠ [] := by
  induction e using Expr.skeleton_induction with
  | connective op left right hop ihl _ =>
      rw [leavesAt_connective hop]
      simp [ihl]
  | nested inner ih => simp [leavesAt, ih]
  | leaf e he => simp [leavesAt_leaf he]

theorem Expr.leavesOf_eq_nil_iff {clause : Option Expr} :
    leavesOf clause = [] ↔ clause = none := by
  cases clause with
  | none => simp [leavesOf]
  | some e => simp [leavesOf, leavesAt_ne_nil e]

/-! ### Ways to leaves that are kept -/

/-- What the ways in a list continue with behind a step. -/
def behind (s : Step) (ways : List (List Step)) : List (List Step) :=
  ways.filterMap fun way =>
    match way with
    | [] => none
    | t :: rest => if t = s then some rest else none

/-- The step to the other side of a connective. -/
def Step.other? : Step → Option Step
  | left op => some (right op)
  | right op => some (left op)
  | inside => none

/-- A way without the connectives that keep a leaf on one side only; `kept` are the ways to the
leaves that are kept. -/
def contract (kept : List (List Step)) : List Step → List Step
  | [] => []
  | s :: way =>
      match s.other? with
      | none => s :: contract (behind s kept) way
      | some other =>
          if behind other kept = [] then contract (behind s kept) way
          else s :: contract (behind s kept) way

theorem behind_append (s : Step) (a b : List (List Step)) :
    behind s (a ++ b) = behind s a ++ behind s b := List.filterMap_append

theorem behind_cons_self (s : Step) (ways : List (List Step)) :
    behind s (ways.map (s :: ·)) = ways := by
  induction ways with
  | nil => rfl
  | cons way ways ih =>
      rw [List.map_cons, behind, List.filterMap_cons]
      simp only [if_true]
      exact congrArg _ ih

theorem behind_cons_ne {s t : Step} (h : t ≠ s) (ways : List (List Step)) :
    behind s (ways.map (t :: ·)) = [] := by
  induction ways with
  | nil => rfl
  | cons way ways ih =>
      rw [List.map_cons, behind, List.filterMap_cons]
      simp only [if_neg h]
      exact ih

/-- A way to the left drops its first step if nothing is kept on the right. -/
theorem contract_left (op : Operator) (a b : List (List Step)) (way : List Step) :
    contract (a.map (.left op :: ·) ++ b.map (.right op :: ·)) (.left op :: way) =
      if b = [] then contract a way else .left op :: contract a way := by
  rw [contract]
  simp only [Step.other?, behind_append, behind_cons_self]
  rw [behind_cons_ne (by simp), behind_cons_ne (by simp), List.append_nil, List.nil_append]

/-- A way to the right drops its first step if nothing is kept on the left. -/
theorem contract_right (op : Operator) (a b : List (List Step)) (way : List Step) :
    contract (a.map (.left op :: ·) ++ b.map (.right op :: ·)) (.right op :: way) =
      if a = [] then contract b way else .right op :: contract b way := by
  rw [contract]
  simp only [Step.other?, behind_append, behind_cons_self]
  rw [behind_cons_ne (by simp), behind_cons_ne (by simp), List.append_nil, List.nil_append]

/-- A way through parentheses keeps them. -/
theorem contract_inside (a : List (List Step)) (way : List Step) :
    contract (a.map (.inside :: ·)) (.inside :: way) = .inside :: contract a way := by
  rw [contract]
  simp only [Step.other?, behind_cons_self]

/-! ### Queries inside a condition -/

/-- The queries that a condition is made of, under connectives, parentheses and operators of one
operand. -/
def Expr.queries : Expr → List Query
  | .unary _ operand => operand.queries
  | .binary .and left right => left.queries ++ right.queries
  | .binary .or left right => left.queries ++ right.queries
  | .nested inner => inner.queries
  | .subquery query => [query]
  | .existence query _ => [query]
  | _ => []

/-- A condition with other queries in place of those that it is made of. -/
def Expr.mapQueries (f : Query → Query) : Expr → Expr
  | .unary op operand => .unary op (operand.mapQueries f)
  | .binary .and left right => .binary .and (left.mapQueries f) (right.mapQueries f)
  | .binary .or left right => .binary .or (left.mapQueries f) (right.mapQueries f)
  | .nested inner => .nested (inner.mapQueries f)
  | .subquery query => .subquery (f query)
  | .existence query negated => .existence (f query) negated
  | e => e

theorem Expr.isLeaf_mapQueries (f : Query → Query) (e : Expr) :
    (e.mapQueries f).isLeaf = e.isLeaf := by
  unfold mapQueries
  split <;> rfl

/-! ### Bindings -/

/-- A leaf is a binding: a name that belongs to the request equals something, or is in a list. -/
inductive IsBinding (w : Whitelist) : Expr → Binding → Prop
  | eq {name : Ident} {target : Target} (right : Expr) :
      Target.resolve? w name.value = some target →
      IsBinding w (.binary .eq (.ident name) right) ⟨target, [right.valueText]⟩
  | inList {name : Ident} {target : Target} (items : List Expr) :
      Target.resolve? w name.value = some target →
      IsBinding w (.inList (.ident name) items false) ⟨target, items.map Expr.valueText⟩

/-- What an expression names is the target of its name. -/
theorem Expr.target?_eq_some_iff {w : Whitelist} {e : Expr} {target : Target} :
    e.target? w = some target ↔
      ∃ name, e = .ident name ∧ Target.resolve? w name.value = some target := by
  constructor
  · intro h
    unfold target? at h
    split at h
    · next name => exact ⟨name, rfl, h⟩
    · exact absurd h (by simp)
  · rintro ⟨name, rfl, h⟩
    exact h

/-- The test for bindings finds exactly the bindings. -/
theorem Expr.binding?_eq_some_iff {w : Whitelist} {e : Expr} {b : Binding} :
    e.binding? w = some b ↔ IsBinding w e b := by
  constructor
  · intro h
    unfold binding? at h
    split at h
    · obtain ⟨target, htarget, rfl⟩ := Option.map_eq_some_iff.1 h
      obtain ⟨name, rfl, hresolve⟩ := target?_eq_some_iff.1 htarget
      exact IsBinding.eq _ hresolve
    · obtain ⟨target, htarget, rfl⟩ := Option.map_eq_some_iff.1 h
      obtain ⟨name, rfl, hresolve⟩ := target?_eq_some_iff.1 htarget
      exact IsBinding.inList _ hresolve
    · exact absurd h (by simp)
  · intro h
    cases h with
    | eq right hresolve => simp [binding?, target?, hresolve]
    | inList items hresolve => simp [binding?, target?, hresolve]

/-! ### Pruning -/

variable (w : Whitelist)

/-- A query without its bindings. -/
def Query.residual (q : Query) : Query := (q.extract w).1

/-- The bindings of a query. -/
def Query.bindings (q : Query) : List Binding := (q.extract w).2

theorem Expr.prune_connective {op : Operator} (h : op.IsConnective) (takes : Bool)
    (left right : Expr) :
    (Expr.binary op left right).prune w takes =
      (connect op (left.prune w takes).1 (right.prune w takes).1,
        (left.prune w takes).2 ++ (right.prune w takes).2) := by
  rcases h with rfl | rfl <;> rfl

/-- Where nothing may be taken, only queries change. -/
theorem Expr.prune_false : ∀ e : Expr,
    e.prune w false = (some (e.mapQueries (Query.residual w)),
      e.queries.flatMap (Query.bindings w))
  | .unary op operand => by simp [prune, mapQueries, queries, prune_false operand]
  | .binary .and left right => by
      simp [prune, mapQueries, queries, prune_false left, prune_false right, connect]
  | .binary .or left right => by
      simp [prune, mapQueries, queries, prune_false left, prune_false right, connect]
  | .nested inner => by simp [prune, mapQueries, queries, prune_false inner]
  | .subquery query => by
      simp [prune, mapQueries, queries, Query.residual, Query.bindings]
  | .existence query negated => by
      simp [prune, mapQueries, queries, Query.residual, Query.bindings]
  | .binary .eq _ _ => rfl
  | .binary (.other _) _ _ => rfl
  | .ident _ => rfl
  | .literal _ => rfl
  | .compound _ => rfl
  | .call _ => rfl
  | .inList _ _ _ => rfl
  | .other _ => rfl

/-- A leaf that is a binding is taken; in another leaf only queries change. -/
theorem Expr.prune_leaf {e : Expr} (h : e.isLeaf = true) :
    e.prune w true =
      match e.binding? w with
      | some b => (none, [b])
      | none => e.prune w false := by
  cases e with
  | binary op left right =>
      cases op with
      | and => exact absurd h (by simp [isLeaf])
      | or => exact absurd h (by simp [isLeaf])
      | eq =>
          simp only [prune, pruneLeaf, if_true]
          split <;> simp_all
      | other op => rfl
  | inList operand items negated =>
      simp only [prune, pruneLeaf, if_true]
      split <;> simp_all
  | nested inner => exact absurd h (by simp [isLeaf])
  | _ => rfl

/-- The leaves of a condition that are no bindings, with the ways to them. -/
def Expr.keptAt (e : Expr) : List (List Step × Expr) :=
  e.leavesAt.filter fun l => (l.2.binding? w).isNone

theorem Expr.keptAt_connective {op : Operator} (h : op.IsConnective) (left right : Expr) :
    (Expr.binary op left right).keptAt w =
      (left.keptAt w).map (Step.left op).before ++
        (right.keptAt w).map (Step.right op).before := by
  rw [keptAt, leavesAt_connective h, List.filter_append, List.filter_map, List.filter_map]
  rfl

theorem Expr.keptAt_nested (inner : Expr) :
    (Expr.nested inner).keptAt w = (inner.keptAt w).map Step.inside.before := by
  rw [keptAt, leavesAt, List.filter_map]
  rfl

theorem Expr.keptAt_leaf {e : Expr} (h : e.isLeaf = true) :
    e.keptAt w = if (e.binding? w).isNone then [([], e)] else [] := by
  rw [keptAt, leavesAt_leaf h, List.filter_cons, List.filter_nil]

/-- A kept leaf after pruning: its way is contracted, and its queries lose their bindings. -/
def residualLeaf (kept : List (List Step × Expr)) (leaf : List Step × Expr) :
    List Step × Expr :=
  (contract (kept.map Prod.fst) leaf.1, leaf.2.mapQueries (Query.residual w))

theorem map_before_fst (s : Step) (leaves : List (List Step × Expr)) :
    (leaves.map s.before).map Prod.fst = (leaves.map Prod.fst).map (s :: ·) := by
  simp [Step.before]

theorem residualLeaf_left (op : Operator) (a b : List (List Step × Expr))
    (leaf : List Step × Expr) :
    residualLeaf w (a.map (Step.left op).before ++ b.map (Step.right op).before)
        ((Step.left op).before leaf) =
      if b = [] then residualLeaf w a leaf else (Step.left op).before (residualLeaf w a leaf) := by
  simp only [residualLeaf, List.map_append, map_before_fst, Step.before, contract_left,
    List.map_eq_nil_iff]
  split <;> rfl

theorem residualLeaf_right (op : Operator) (a b : List (List Step × Expr))
    (leaf : List Step × Expr) :
    residualLeaf w (a.map (Step.left op).before ++ b.map (Step.right op).before)
        ((Step.right op).before leaf) =
      if a = [] then residualLeaf w b leaf
      else (Step.right op).before (residualLeaf w b leaf) := by
  simp only [residualLeaf, List.map_append, map_before_fst, Step.before, contract_right,
    List.map_eq_nil_iff]
  split <;> rfl

theorem residualLeaf_inside (a : List (List Step × Expr)) (leaf : List Step × Expr) :
    residualLeaf w (a.map Step.inside.before) (Step.inside.before leaf) =
      Step.inside.before (residualLeaf w a leaf) := by
  simp only [residualLeaf, map_before_fst, Step.before, contract_inside]

/-- The leaves of a connective of what is left of its two sides. -/
theorem Expr.leavesOf_connect {op : Operator} (h : op.IsConnective) (left right : Option Expr) :
    leavesOf (connect op left right) =
      (if leavesOf right = [] then leavesOf left
        else (leavesOf left).map (Step.left op).before) ++
      (if leavesOf left = [] then leavesOf right
        else (leavesOf right).map (Step.right op).before) := by
  cases left with
  | none => by_cases hr : leavesOf right = [] <;> simp [connect, leavesOf]
  | some l =>
      have hl : leavesOf (some l) ≠ [] := leavesAt_ne_nil l
      cases right with
      | none => simp [connect, leavesOf]
      | some r =>
          have hr : leavesOf (some r) ≠ [] := leavesAt_ne_nil r
          rw [if_neg hl, if_neg hr]
          exact leavesAt_connective h l r

/-- The leaves of a pruned condition are the kept ones, and the ways to them are contracted. -/
theorem Expr.leavesAt_prune (e : Expr) :
    leavesOf (e.prune w true).1 = (e.keptAt w).map (residualLeaf w (e.keptAt w)) := by
  induction e using Expr.skeleton_induction with
  | connective op left right hop ihl ihr =>
      have hl : residualLeaf w _ ∘ (Step.left op).before = _ :=
        funext (residualLeaf_left w op (left.keptAt w) (right.keptAt w))
      have hr : residualLeaf w _ ∘ (Step.right op).before = _ :=
        funext (residualLeaf_right w op (left.keptAt w) (right.keptAt w))
      rw [keptAt_connective w hop, List.map_append, List.map_map, List.map_map, hl, hr,
        prune_connective w hop, leavesOf_connect hop, ihl, ihr]
      simp only [List.map_eq_nil_iff]
      congr 1
      · split
        · rfl
        · rw [List.map_map]
          rfl
      · split
        · rfl
        · rw [List.map_map]
          rfl
  | nested inner ih =>
      have hi : residualLeaf w _ ∘ Step.inside.before = _ :=
        funext (residualLeaf_inside w (inner.keptAt w))
      have hnested : leavesOf ((Expr.nested inner).prune w true).1 =
          (leavesOf (inner.prune w true).1).map Step.inside.before := by
        simp only [prune]
        cases (inner.prune w true).1 <;> rfl
      rw [hnested, keptAt_nested, List.map_map, hi, ih, List.map_map]
      rfl
  | leaf e he =>
      rw [prune_leaf w he, keptAt_leaf w he]
      cases e.binding? w with
      | some b => rfl
      | none =>
          rw [prune_false]
          exact leavesAt_leaf ((isLeaf_mapQueries _ e).trans he)

/-- A condition disappears exactly if every leaf is a binding. -/
theorem Expr.prune_eq_none_iff (e : Expr) :
    (e.prune w true).1 = none ↔ ∀ leaf ∈ e.leavesAt, ∃ b, IsBinding w leaf.2 b := by
  rw [← leavesOf_eq_nil_iff, leavesAt_prune, List.map_eq_nil_iff, keptAt, List.filter_eq_nil_iff]
  constructor
  · intro h leaf hleaf
    have hsome : (leaf.2.binding? w).isNone ≠ true := h leaf hleaf
    cases hb : leaf.2.binding? w with
    | none => exact absurd (by rw [hb]; rfl) hsome
    | some b => exact ⟨b, binding?_eq_some_iff.1 hb⟩
  · intro h leaf hleaf
    obtain ⟨b, hb⟩ := h leaf hleaf
    rw [binding?_eq_some_iff.2 hb]
    exact Bool.false_ne_true

end Sql

end Pushdown
