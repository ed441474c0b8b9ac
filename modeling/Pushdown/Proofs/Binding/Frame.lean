/-
**What extraction leaves alone.**

Extraction takes conditions and nothing else: the tables that a statement reads stay, and a
statement none of whose conditions is a binding stays as it is.  Whether a condition is a binding
does not depend on the names of the tables in it.

Main results:

* `Sql.Statement.sources_extract` — the tables of a residual statement;
* `Sql.Statement.extract_eq_self_iff` — **a statement stays exactly if it has no binding**;
* `Sql.Statement.extract_extract` — **a second extraction takes nothing**;
* `Sql.Statement.extract_bindings_mapTables` — changed names bring no binding and take none.
-/

import Pushdown.Proofs.Binding.Residual
import Pushdown.Proofs.Sql.Tables

set_option autoImplicit false

namespace Pushdown

namespace Sql

section

variable (w : Whitelist)

/-! ### Tables -/

mutual

/-- A residual query reads the tables of the query. -/
theorem Query.sources_extract : ∀ q : Query, (q.extract w).1.sources = q.sources
  | .mk _ commons body _ => by
      simp only [Query.extract, Query.sources, CommonTable.sources_extractAll commons,
        SetExpr.sources_extract body]

theorem CommonTable.sources_extractAll : ∀ commons : List CommonTable,
    CommonTable.sourcesOfAll (CommonTable.extractAll w commons).1 =
      CommonTable.sourcesOfAll commons
  | [] => rfl
  | c :: rest => by
      simp only [CommonTable.extractAll, CommonTable.sourcesOfAll, CommonTable.sources_extract c,
        CommonTable.sources_extractAll rest]

theorem CommonTable.sources_extract : ∀ c : CommonTable, (c.extract w).1.sources = c.sources
  | .mk _ _ query _ => Query.sources_extract query

theorem SetExpr.sources_extract : ∀ body : SetExpr, (body.extract w).1.sources = body.sources
  | .select select => Select.sources_extract select
  | .query query => Query.sources_extract query
  | .combine _ left right => by
      simp only [SetExpr.extract, SetExpr.sources, SetExpr.sources_extract left,
        SetExpr.sources_extract right]
  | .other _ => rfl

theorem Select.sources_extract : ∀ select : Select,
    (select.extract w).1.sources = select.sources
  | .mk _ _ source _ _ _ => TableTree.sources_extractAll source

theorem TableTree.sources_extractAll : ∀ source : List TableTree,
    TableTree.sourcesOfAll (TableTree.extractAll w source).1 = TableTree.sourcesOfAll source
  | [] => rfl
  | t :: rest => by
      simp only [TableTree.extractAll, TableTree.sourcesOfAll, TableTree.sources_extract t,
        TableTree.sources_extractAll rest]

theorem TableTree.sources_extract : ∀ t : TableTree, (t.extract w).1.sources = t.sources
  | .mk relation joins => by
      simp only [TableTree.extract, TableTree.sources, TableFactor.sources_extract relation,
        Join.sources_extractAll joins]

theorem Join.sources_extractAll : ∀ joins : List Join,
    Join.sourcesOfAll (Join.extractAll w joins).1 = Join.sourcesOfAll joins
  | [] => rfl
  | j :: rest => by
      simp only [Join.extractAll, Join.sourcesOfAll, Join.sources_extract j,
        Join.sources_extractAll rest]

theorem Join.sources_extract : ∀ j : Join, (j.extract w).1.sources = j.sources
  | .mk _ relation _ => TableFactor.sources_extract relation

theorem TableFactor.sources_extract : ∀ t : TableFactor, (t.extract w).1.sources = t.sources
  | .table _ _ _ _ => rfl
  | .derived _ query _ => Query.sources_extract query
  | .joined tree _ => TableTree.sources_extract tree
  | .other _ _ _ => rfl

end

/-- A residual statement reads the tables of the statement. -/
theorem Statement.sources_extract (s : Statement) : (s.extract w).1.sources = s.sources := by
  cases s with
  | query q => exact Query.sources_extract w q
  | other text => rfl

/-! ### Statements without bindings -/

theorem Expr.pruneLeaf_of_nil {takes : Bool} {e : Expr} (h : (e.pruneLeaf w takes).2 = []) :
    (e.pruneLeaf w takes).1 = some e := by
  unfold pruneLeaf at h ⊢
  split
  · next htakes =>
      rw [if_pos htakes] at h
      cases hb : e.binding? w with
      | none => rfl
      | some b => simp [hb] at h
  · rfl

mutual

/-- A condition from which nothing is taken stays. -/
theorem Expr.prune_of_nil : ∀ (e : Expr) {takes : Bool}, (e.prune w takes).2 = [] →
    (e.prune w takes).1 = some e
  | .binary .and left right, takes, h => by
      obtain ⟨hleft, hright⟩ := List.append_eq_nil_iff.1 h
      simp only [Expr.prune, Expr.prune_of_nil left hleft, Expr.prune_of_nil right hright, connect]
  | .binary .or left right, takes, h => by
      obtain ⟨hleft, hright⟩ := List.append_eq_nil_iff.1 h
      simp only [Expr.prune, Expr.prune_of_nil left hleft, Expr.prune_of_nil right hright, connect]
  | .nested inner, takes, h => by
      simp only [Expr.prune, Expr.prune_of_nil inner h, Option.map_some]
  | .unary op operand, takes, h => by
      simp only [Expr.prune, Expr.prune_of_nil operand h, Option.map_some]
  | .subquery query, takes, h => by
      simp only [Expr.prune, Query.extract_of_nil query h]
  | .existence query negated, takes, h => by
      simp only [Expr.prune, Query.extract_of_nil query h]
  | .binary .eq left right, takes, h => Expr.pruneLeaf_of_nil w h
  | .inList operand items negated, takes, h => Expr.pruneLeaf_of_nil w h
  | .binary (.other _) _ _, _, _ => rfl
  | .ident _, _, _ => rfl
  | .literal _, _, _ => rfl
  | .compound _, _, _ => rfl
  | .call _, _, _ => rfl
  | .other _, _, _ => rfl

theorem Expr.pruneSelection_of_nil : ∀ clause : Option Expr,
    (Expr.pruneSelection w clause).2 = [] → (Expr.pruneSelection w clause).1 = clause
  | none, _ => rfl
  | some e, h => Expr.prune_of_nil e h

theorem Query.extract_of_nil : ∀ q : Query, (q.extract w).2 = [] → (q.extract w).1 = q
  | .mk _ commons body _, h => by
      obtain ⟨hcommons, hbody⟩ := List.append_eq_nil_iff.1 h
      simp only [Query.extract, CommonTable.extractAll_of_nil commons hcommons,
        SetExpr.extract_of_nil body hbody]

theorem CommonTable.extractAll_of_nil : ∀ commons : List CommonTable,
    (CommonTable.extractAll w commons).2 = [] → (CommonTable.extractAll w commons).1 = commons
  | [], _ => rfl
  | c :: rest, h => by
      obtain ⟨hc, hrest⟩ := List.append_eq_nil_iff.1 h
      simp only [CommonTable.extractAll, CommonTable.extract_of_nil c hc,
        CommonTable.extractAll_of_nil rest hrest]

theorem CommonTable.extract_of_nil : ∀ c : CommonTable,
    (c.extract w).2 = [] → (c.extract w).1 = c
  | .mk _ _ query _, h => by simp only [CommonTable.extract, Query.extract_of_nil query h]

theorem SetExpr.extract_of_nil : ∀ body : SetExpr,
    (body.extract w).2 = [] → (body.extract w).1 = body
  | .select select, h => by simp only [SetExpr.extract, Select.extract_of_nil select h]
  | .query query, h => by simp only [SetExpr.extract, Query.extract_of_nil query h]
  | .combine _ left right, h => by
      obtain ⟨hleft, hright⟩ := List.append_eq_nil_iff.1 h
      simp only [SetExpr.extract, SetExpr.extract_of_nil left hleft,
        SetExpr.extract_of_nil right hright]
  | .other _, _ => rfl

theorem Select.extract_of_nil : ∀ select : Select,
    (select.extract w).2 = [] → (select.extract w).1 = select
  | .mk _ _ source _ selection _, h => by
      obtain ⟨hsource, hselection⟩ := List.append_eq_nil_iff.1 h
      simp only [Select.extract, TableTree.extractAll_of_nil source hsource,
        Expr.pruneSelection_of_nil selection hselection]

theorem TableTree.extractAll_of_nil : ∀ source : List TableTree,
    (TableTree.extractAll w source).2 = [] → (TableTree.extractAll w source).1 = source
  | [], _ => rfl
  | t :: rest, h => by
      obtain ⟨ht, hrest⟩ := List.append_eq_nil_iff.1 h
      simp only [TableTree.extractAll, TableTree.extract_of_nil t ht,
        TableTree.extractAll_of_nil rest hrest]

theorem TableTree.extract_of_nil : ∀ t : TableTree,
    (t.extract w).2 = [] → (t.extract w).1 = t
  | .mk relation joins, h => by
      obtain ⟨hrelation, hjoins⟩ := List.append_eq_nil_iff.1 h
      simp only [TableTree.extract, TableFactor.extract_of_nil relation hrelation,
        Join.extractAll_of_nil joins hjoins]

theorem Join.extractAll_of_nil : ∀ joins : List Join,
    (Join.extractAll w joins).2 = [] → (Join.extractAll w joins).1 = joins
  | [], _ => rfl
  | j :: rest, h => by
      obtain ⟨hj, hrest⟩ := List.append_eq_nil_iff.1 h
      simp only [Join.extractAll, Join.extract_of_nil j hj, Join.extractAll_of_nil rest hrest]

theorem Join.extract_of_nil : ∀ j : Join, (j.extract w).2 = [] → (j.extract w).1 = j
  | .mk _ relation _, h => by simp only [Join.extract, TableFactor.extract_of_nil relation h]

theorem TableFactor.extract_of_nil : ∀ t : TableFactor,
    (t.extract w).2 = [] → (t.extract w).1 = t
  | .table _ _ _ _, _ => rfl
  | .derived _ query _, h => by simp only [TableFactor.extract, Query.extract_of_nil query h]
  | .joined tree _, h => by simp only [TableFactor.extract, TableTree.extract_of_nil tree h]
  | .other _ _ _, _ => rfl

end

/-- **A statement stays exactly if it has no binding.** -/
theorem Statement.extract_eq_self_iff (s : Statement) :
    (s.extract w).1 = s ↔ (s.extract w).2 = [] := by
  constructor
  · intro h
    rw [Statement.extract_bindings]
    exact (congrArg _ (congrArg Statement.visited h.symm)).trans (Statement.residual_bindings w s)
  · intro h
    cases s with
    | query q => exact congrArg Statement.query (Query.extract_of_nil w q h)
    | other text => rfl

/-- **A second extraction takes nothing.**  A residual statement has no binding and stays as it
is. -/
theorem Statement.extract_extract (s : Statement) :
    (s.extract w).1.extract w = ((s.extract w).1, []) := by
  have hbindings : ((s.extract w).1.extract w).2 = [] := Statement.extract_residual_bindings w s
  have hstays : ((s.extract w).1.extract w).1 = (s.extract w).1 :=
    (Statement.extract_eq_self_iff w _).2 hbindings
  exact Prod.ext hstays hbindings

/-- A statement has no binding exactly if no leaf that is visited is one. -/
theorem Statement.extract_bindings_eq_nil_iff (s : Statement) :
    (s.extract w).2 = [] ↔ ∀ leaf ∈ s.visited, ∀ b, ¬ IsBinding w leaf b := by
  rw [Statement.extract_bindings, List.filterMap_eq_nil_iff]
  refine forall₂_congr fun leaf _ => ?_
  rw [Option.eq_none_iff_forall_ne_some]
  exact forall_congr' fun b => not_congr Expr.binding?_eq_some_iff

/-- The statements of a residual text. -/
theorem extractAll_eq_map (statements : List Statement) :
    (extractAll w statements).1 = statements.map fun s => (s.extract w).1 := by
  induction statements with
  | nil => rfl
  | cons s rest ih => simp only [extractAll, List.map_cons, ih]

/-- The bindings of several statements are those of the one and of the other. -/
theorem extractAll_bindings_append (front back : List Statement) :
    (extractAll w (front ++ back)).2 = (extractAll w front).2 ++ (extractAll w back).2 := by
  simp only [extractAll_bindings, List.flatMap_append, List.filterMap_append]

/-! ### Changed names -/

variable (f : List Ident → List Ident)

/-- Changed names make no condition a binding and none another condition. -/
theorem Expr.binding?_mapTables_eq_none_iff (e : Expr) :
    (e.mapTables f).binding? w = none ↔ e.binding? w = none := by
  have htarget (e : Expr) : (e.mapTables f).target? w = e.target? w := by cases e <;> rfl
  cases e with
  | binary op left right =>
      cases op <;> simp [Expr.mapTables, Expr.binding?, htarget]
  | inList operand items negated =>
      cases negated <;> simp [Expr.mapTables, Expr.binding?, htarget]
  | _ => simp [Expr.mapTables, Expr.binding?]

mutual

/-- With changed names the same leaves are visited. -/
theorem Expr.visited_mapTables : ∀ e : Expr,
    (e.mapTables f).visited = e.visited.map (Expr.mapTables f)
  | .binary .and left right => by
      simp only [Expr.mapTables, Expr.visited, List.map_append, Expr.visited_mapTables left,
        Expr.visited_mapTables right]
  | .binary .or left right => by
      simp only [Expr.mapTables, Expr.visited, List.map_append, Expr.visited_mapTables left,
        Expr.visited_mapTables right]
  | .nested inner => Expr.visited_mapTables inner
  | .unary _ operand => by
      simp only [Expr.mapTables, Expr.visited, List.map_cons, Expr.visitedInside_mapTables operand]
  | .subquery query => by
      simp only [Expr.mapTables, Expr.visited, List.map_cons, Query.visited_mapTables query]
  | .existence query _ => by
      simp only [Expr.mapTables, Expr.visited, List.map_cons, Query.visited_mapTables query]
  | .binary .eq _ _ => rfl
  | .inList _ _ _ => rfl
  | .binary (.other _) _ _ => rfl
  | .ident _ => rfl
  | .literal _ => rfl
  | .compound _ => rfl
  | .call _ => rfl
  | .other _ => rfl

theorem Expr.visitedInside_mapTables : ∀ e : Expr,
    (e.mapTables f).visitedInside = e.visitedInside.map (Expr.mapTables f)
  | .binary .and left right => by
      simp only [Expr.mapTables, Expr.visitedInside, List.map_append,
        Expr.visitedInside_mapTables left, Expr.visitedInside_mapTables right]
  | .binary .or left right => by
      simp only [Expr.mapTables, Expr.visitedInside, List.map_append,
        Expr.visitedInside_mapTables left, Expr.visitedInside_mapTables right]
  | .nested inner => Expr.visitedInside_mapTables inner
  | .unary _ operand => Expr.visitedInside_mapTables operand
  | .subquery query => Query.visited_mapTables query
  | .existence query _ => Query.visited_mapTables query
  | .binary .eq _ _ => rfl
  | .inList _ _ _ => rfl
  | .binary (.other _) _ _ => rfl
  | .ident _ => rfl
  | .literal _ => rfl
  | .compound _ => rfl
  | .call _ => rfl
  | .other _ => rfl

theorem Expr.visitedOf_mapTables : ∀ clause : Option Expr,
    Expr.visitedOf (Expr.mapTablesOf f clause) = (Expr.visitedOf clause).map (Expr.mapTables f)
  | none => rfl
  | some e => Expr.visited_mapTables e

theorem Query.visited_mapTables : ∀ q : Query,
    (q.mapTables f).visited = q.visited.map (Expr.mapTables f)
  | .mk _ commons body _ => by
      simp only [Query.mapTables, Query.visited, List.map_append,
        CommonTable.visitedOfAll_mapTables commons, SetExpr.visited_mapTables body]

theorem CommonTable.visitedOfAll_mapTables : ∀ commons : List CommonTable,
    CommonTable.visitedOfAll (CommonTable.mapTablesEach f commons) =
      (CommonTable.visitedOfAll commons).map (Expr.mapTables f)
  | [] => rfl
  | c :: rest => by
      simp only [CommonTable.mapTablesEach, CommonTable.visitedOfAll, List.map_append,
        CommonTable.visited_mapTables c, CommonTable.visitedOfAll_mapTables rest]

theorem CommonTable.visited_mapTables : ∀ c : CommonTable,
    (c.mapTables f).visited = c.visited.map (Expr.mapTables f)
  | .mk _ _ query _ => Query.visited_mapTables query

theorem SetExpr.visited_mapTables : ∀ body : SetExpr,
    (body.mapTables f).visited = body.visited.map (Expr.mapTables f)
  | .select select => Select.visited_mapTables select
  | .query query => Query.visited_mapTables query
  | .combine _ left right => by
      simp only [SetExpr.mapTables, SetExpr.visited, List.map_append,
        SetExpr.visited_mapTables left, SetExpr.visited_mapTables right]
  | .other _ => rfl

theorem Select.visited_mapTables : ∀ select : Select,
    (select.mapTables f).visited = select.visited.map (Expr.mapTables f)
  | .mk _ _ source _ selection _ => by
      simp only [Select.mapTables, Select.visited, List.map_append,
        TableTree.visitedOfAll_mapTables source, Expr.visitedOf_mapTables selection]

theorem TableTree.visitedOfAll_mapTables : ∀ source : List TableTree,
    TableTree.visitedOfAll (TableTree.mapTablesEach f source) =
      (TableTree.visitedOfAll source).map (Expr.mapTables f)
  | [] => rfl
  | t :: rest => by
      simp only [TableTree.mapTablesEach, TableTree.visitedOfAll, List.map_append,
        TableTree.visited_mapTables t, TableTree.visitedOfAll_mapTables rest]

theorem TableTree.visited_mapTables : ∀ t : TableTree,
    (t.mapTables f).visited = t.visited.map (Expr.mapTables f)
  | .mk relation joins => by
      simp only [TableTree.mapTables, TableTree.visited, List.map_append,
        TableFactor.visited_mapTables relation, Join.visitedOfAll_mapTables joins]

theorem Join.visitedOfAll_mapTables : ∀ joins : List Join,
    Join.visitedOfAll (Join.mapTablesEach f joins) =
      (Join.visitedOfAll joins).map (Expr.mapTables f)
  | [] => rfl
  | j :: rest => by
      simp only [Join.mapTablesEach, Join.visitedOfAll, List.map_append, Join.visited_mapTables j,
        Join.visitedOfAll_mapTables rest]

theorem Join.visited_mapTables : ∀ j : Join,
    (j.mapTables f).visited = j.visited.map (Expr.mapTables f)
  | .mk _ relation _ => TableFactor.visited_mapTables relation

theorem TableFactor.visited_mapTables : ∀ t : TableFactor,
    (t.mapTables f).visited = t.visited.map (Expr.mapTables f)
  | .table _ _ _ _ => rfl
  | .derived _ query _ => Query.visited_mapTables query
  | .joined tree _ => TableTree.visited_mapTables tree
  | .other _ _ _ => rfl

end

theorem Statement.visited_mapTables (s : Statement) :
    (s.mapTables f).visited = s.visited.map (Expr.mapTables f) := by
  cases s with
  | query q => exact Query.visited_mapTables f q
  | other text => rfl

/-- Changed names bring no binding and take none. -/
theorem Statement.extract_bindings_mapTables (s : Statement) :
    ((s.mapTables f).extract w).2 = [] ↔ (s.extract w).2 = [] := by
  simp only [Statement.extract_bindings, Statement.visited_mapTables, List.filterMap_eq_nil_iff,
    List.forall_mem_map, Expr.binding?_mapTables_eq_none_iff]

end

end Sql

end Pushdown
