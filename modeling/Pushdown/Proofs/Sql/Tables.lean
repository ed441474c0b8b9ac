/-
**Table names in a syntax tree.**

A statement names tables in its `FROM` clauses and in those of the queries inside its conditions.
Changing these names changes nothing else of a tree, and the text of the tree is then the text
around the names with the new ones in the gaps.

Main definitions:

* `Sql.Query.mapTables` — a query with its table names changed;
* `Sql.renameTable` — one name in place of another;
* `Sql.Query.sources` — the names of the tables that a query reads, as they are spelled;
* `Sql.Query.around` — the text of a query around the tables of one spelling.

Main results:

* `Sql.Query.tables_eq` — the tables that are read are the sources without their quotes;
* `Sql.Query.sources_mapTables` — changed names are read in place of the old ones;
* `Sql.Query.render_renameTable` — **a changed name is written into the gaps**.
-/

import Pushdown.Proofs.Text.Gap
import Pushdown.Sql.Tables

set_option autoImplicit false

namespace Pushdown

namespace Sql

open Text (Gapped)

/-! ### Changing the names -/

section

variable (f : List Ident → List Ident)

mutual

/-- An expression with the table names of its queries changed. -/
def Expr.mapTables : Expr → Expr
  | .ident name => .ident name
  | .literal value => .literal value
  | .compound text => .compound text
  | .call text => .call text
  | .unary op operand => .unary op operand.mapTables
  | .binary op left right => .binary op left.mapTables right.mapTables
  | .nested inner => .nested inner.mapTables
  | .inList operand items negated => .inList operand.mapTables (Expr.mapTablesEach items) negated
  | .existence query negated => .existence query.mapTables negated
  | .subquery query => .subquery query.mapTables
  | .other text => .other text

/-- Expressions with the table names of their queries changed. -/
def Expr.mapTablesEach : List Expr → List Expr
  | [] => []
  | e :: rest => e.mapTables :: Expr.mapTablesEach rest

/-- A clause with the table names of its queries changed. -/
def Expr.mapTablesOf : Option Expr → Option Expr
  | none => none
  | some e => some e.mapTables

/-- A query with its table names changed. -/
def Query.mapTables : Query → Query
  | .mk isRecursive commons body tail =>
      .mk isRecursive (CommonTable.mapTablesEach commons) body.mapTables tail

/-- Common tables with the table names of their queries changed. -/
def CommonTable.mapTablesEach : List CommonTable → List CommonTable
  | [] => []
  | c :: rest => c.mapTables :: CommonTable.mapTablesEach rest

/-- A common table with the table names of its query changed. -/
def CommonTable.mapTables : CommonTable → CommonTable
  | .mk name mark query tail => .mk name mark query.mapTables tail

/-- A body with its table names changed. -/
def SetExpr.mapTables : SetExpr → SetExpr
  | .select select => .select select.mapTables
  | .query query => .query query.mapTables
  | .combine op left right => .combine op left.mapTables right.mapTables
  | .other text => .other text

/-- A select with its table names changed. -/
def Select.mapTables : Select → Select
  | .mk fromFirst head source middle selection tail =>
      .mk fromFirst head (TableTree.mapTablesEach source) middle (Expr.mapTablesOf selection) tail

/-- Tables with their names changed. -/
def TableTree.mapTablesEach : List TableTree → List TableTree
  | [] => []
  | t :: rest => t.mapTables :: TableTree.mapTablesEach rest

/-- A table and its joins with the names changed. -/
def TableTree.mapTables : TableTree → TableTree
  | .mk relation joins => .mk relation.mapTables (Join.mapTablesEach joins)

/-- Joins with the table names changed. -/
def Join.mapTablesEach : List Join → List Join
  | [] => []
  | j :: rest => j.mapTables :: Join.mapTablesEach rest

/-- A join with the table name changed. -/
def Join.mapTables : Join → Join
  | .mk kind relation constraint => .mk kind relation.mapTables constraint

/-- A table with its name changed. -/
def TableFactor.mapTables : TableFactor → TableFactor
  | .table name middle aliasName tail => .table (f name) middle aliasName tail
  | .derived lateral query aliasName => .derived lateral query.mapTables aliasName
  | .joined tree aliasName => .joined tree.mapTables aliasName
  | .other text aliasName tail => .other text aliasName tail

end

/-- A statement with its table names changed. -/
def Statement.mapTables : Statement → Statement
  | query q => query (q.mapTables f)
  | other text => other text

end

mutual

theorem Expr.mapTables_id : ∀ e : Expr, e.mapTables id = e
  | .ident _ => rfl
  | .literal _ => rfl
  | .compound _ => rfl
  | .call _ => rfl
  | .unary _ operand => by rw [Expr.mapTables, Expr.mapTables_id operand]
  | .binary _ left right => by
      rw [Expr.mapTables, Expr.mapTables_id left, Expr.mapTables_id right]
  | .nested inner => by rw [Expr.mapTables, Expr.mapTables_id inner]
  | .inList operand items _ => by
      rw [Expr.mapTables, Expr.mapTables_id operand, Expr.mapTablesEach_id items]
  | .existence query _ => by rw [Expr.mapTables, Query.mapTables_id query]
  | .subquery query => by rw [Expr.mapTables, Query.mapTables_id query]
  | .other _ => rfl

theorem Expr.mapTablesEach_id : ∀ items : List Expr, Expr.mapTablesEach id items = items
  | [] => rfl
  | e :: rest => by rw [Expr.mapTablesEach, Expr.mapTables_id e, Expr.mapTablesEach_id rest]

theorem Expr.mapTablesOf_id : ∀ clause : Option Expr, Expr.mapTablesOf id clause = clause
  | none => rfl
  | some e => by rw [Expr.mapTablesOf, Expr.mapTables_id e]

/-- Names that are changed to themselves leave a query as it is. -/
theorem Query.mapTables_id : ∀ q : Query, q.mapTables id = q
  | .mk _ commons body _ => by
      rw [Query.mapTables, CommonTable.mapTablesEach_id commons, SetExpr.mapTables_id body]

theorem CommonTable.mapTablesEach_id : ∀ commons : List CommonTable,
    CommonTable.mapTablesEach id commons = commons
  | [] => rfl
  | c :: rest => by
      rw [CommonTable.mapTablesEach, CommonTable.mapTables_id c, CommonTable.mapTablesEach_id rest]

theorem CommonTable.mapTables_id : ∀ c : CommonTable, c.mapTables id = c
  | .mk _ _ query _ => by rw [CommonTable.mapTables, Query.mapTables_id query]

theorem SetExpr.mapTables_id : ∀ body : SetExpr, body.mapTables id = body
  | .select select => by rw [SetExpr.mapTables, Select.mapTables_id select]
  | .query query => by rw [SetExpr.mapTables, Query.mapTables_id query]
  | .combine _ left right => by
      rw [SetExpr.mapTables, SetExpr.mapTables_id left, SetExpr.mapTables_id right]
  | .other _ => rfl

theorem Select.mapTables_id : ∀ select : Select, select.mapTables id = select
  | .mk _ _ source _ selection _ => by
      rw [Select.mapTables, TableTree.mapTablesEach_id source, Expr.mapTablesOf_id selection]

theorem TableTree.mapTablesEach_id : ∀ source : List TableTree,
    TableTree.mapTablesEach id source = source
  | [] => rfl
  | t :: rest => by
      rw [TableTree.mapTablesEach, TableTree.mapTables_id t, TableTree.mapTablesEach_id rest]

theorem TableTree.mapTables_id : ∀ t : TableTree, t.mapTables id = t
  | .mk relation joins => by
      rw [TableTree.mapTables, TableFactor.mapTables_id relation, Join.mapTablesEach_id joins]

theorem Join.mapTablesEach_id : ∀ joins : List Join, Join.mapTablesEach id joins = joins
  | [] => rfl
  | j :: rest => by rw [Join.mapTablesEach, Join.mapTables_id j, Join.mapTablesEach_id rest]

theorem Join.mapTables_id : ∀ j : Join, j.mapTables id = j
  | .mk _ relation _ => by rw [Join.mapTables, TableFactor.mapTables_id relation]

theorem TableFactor.mapTables_id : ∀ t : TableFactor, t.mapTables id = t
  | .table _ _ _ _ => rfl
  | .derived _ query _ => by rw [TableFactor.mapTables, Query.mapTables_id query]
  | .joined tree _ => by rw [TableFactor.mapTables, TableTree.mapTables_id tree]
  | .other _ _ _ => rfl

end

theorem Statement.mapTables_id (s : Statement) : s.mapTables id = s := by
  cases s with
  | query q => exact congrArg Statement.query (Query.mapTables_id q)
  | other text => rfl

/-- One name in place of another. -/
def renameTable (source target name : List Ident) : List Ident :=
  if name = source then target else name

theorem renameTable_self (name : List Ident) : renameTable name name = id := by
  funext n
  unfold renameTable
  split
  · next h => exact h.symm
  · rfl

/-! ### The tables that are read -/

mutual

/-- The names of the tables that a query reads, as they are spelled. -/
def Query.sources : Query → List (List Ident)
  | .mk _ commons body _ => CommonTable.sourcesOfAll commons ++ body.sources

/-- The names of the tables that common tables read. -/
def CommonTable.sourcesOfAll : List CommonTable → List (List Ident)
  | [] => []
  | c :: rest => c.sources ++ CommonTable.sourcesOfAll rest

/-- The names of the tables that a common table reads. -/
def CommonTable.sources : CommonTable → List (List Ident)
  | .mk _ _ query _ => query.sources

/-- The names of the tables that a body reads. -/
def SetExpr.sources : SetExpr → List (List Ident)
  | .select select => select.sources
  | .query query => query.sources
  | .combine _ left right => left.sources ++ right.sources
  | .other _ => []

/-- The names of the tables that a select reads. -/
def Select.sources : Select → List (List Ident)
  | .mk _ _ source _ _ _ => TableTree.sourcesOfAll source

/-- The names of several tables with their joins. -/
def TableTree.sourcesOfAll : List TableTree → List (List Ident)
  | [] => []
  | t :: rest => t.sources ++ TableTree.sourcesOfAll rest

/-- The names of a table and its joins. -/
def TableTree.sources : TableTree → List (List Ident)
  | .mk relation joins => relation.sources ++ Join.sourcesOfAll joins

/-- The names of the tables of joins. -/
def Join.sourcesOfAll : List Join → List (List Ident)
  | [] => []
  | j :: rest => j.sources ++ Join.sourcesOfAll rest

/-- The name of the table of a join. -/
def Join.sources : Join → List (List Ident)
  | .mk _ relation _ => relation.sources

/-- The name of a table, or those that a query in its place reads. -/
def TableFactor.sources : TableFactor → List (List Ident)
  | .table name _ _ _ => [name]
  | .derived _ query _ => query.sources
  | .joined tree _ => tree.sources
  | .other _ _ _ => []

end

/-- The names of the tables that a statement reads, as they are spelled. -/
def Statement.sources : Statement → List (List Ident)
  | query q => q.sources
  | other _ => []

mutual

/-- The tables that are read are the sources without their quotes. -/
theorem Query.tables_eq : ∀ q : Query, q.tables.map TableUse.name = q.sources.map plainName
  | .mk _ commons body _ => by
      simp only [Query.tables, Query.sources, List.map_append, CommonTable.allTables_eq commons,
        SetExpr.tables_eq body]

theorem CommonTable.allTables_eq : ∀ commons : List CommonTable,
    (CommonTable.allTables commons).map TableUse.name =
      (CommonTable.sourcesOfAll commons).map plainName
  | [] => rfl
  | c :: rest => by
      simp only [CommonTable.allTables, CommonTable.sourcesOfAll, List.map_append,
        CommonTable.tables_eq c, CommonTable.allTables_eq rest]

theorem CommonTable.tables_eq : ∀ c : CommonTable,
    c.tables.map TableUse.name = c.sources.map plainName
  | .mk _ _ query _ => Query.tables_eq query

theorem SetExpr.tables_eq : ∀ body : SetExpr,
    body.tables.map TableUse.name = body.sources.map plainName
  | .select select => Select.tables_eq select
  | .query query => Query.tables_eq query
  | .combine _ left right => by
      simp only [SetExpr.tables, SetExpr.sources, List.map_append, SetExpr.tables_eq left,
        SetExpr.tables_eq right]
  | .other _ => rfl

theorem Select.tables_eq : ∀ select : Select,
    select.tables.map TableUse.name = select.sources.map plainName
  | .mk _ _ source _ _ _ => TableTree.allTables_eq source

theorem TableTree.allTables_eq : ∀ source : List TableTree,
    (TableTree.allTables source).map TableUse.name =
      (TableTree.sourcesOfAll source).map plainName
  | [] => rfl
  | t :: rest => by
      simp only [TableTree.allTables, TableTree.sourcesOfAll, List.map_append,
        TableTree.tables_eq t, TableTree.allTables_eq rest]

theorem TableTree.tables_eq : ∀ t : TableTree,
    t.tables.map TableUse.name = t.sources.map plainName
  | .mk relation joins => by
      simp only [TableTree.tables, TableTree.sources, List.map_append,
        TableFactor.tables_eq relation, Join.allTables_eq joins]

theorem Join.allTables_eq : ∀ joins : List Join,
    (Join.allTables joins).map TableUse.name = (Join.sourcesOfAll joins).map plainName
  | [] => rfl
  | j :: rest => by
      simp only [Join.allTables, Join.sourcesOfAll, List.map_append, Join.tables_eq j,
        Join.allTables_eq rest]

theorem Join.tables_eq : ∀ j : Join, j.tables.map TableUse.name = j.sources.map plainName
  | .mk _ relation _ => TableFactor.tables_eq relation

theorem TableFactor.tables_eq : ∀ t : TableFactor,
    t.tables.map TableUse.name = t.sources.map plainName
  | .table _ _ _ _ => rfl
  | .derived _ query _ => Query.tables_eq query
  | .joined tree _ => TableTree.tables_eq tree
  | .other _ _ _ => rfl

end

theorem Statement.tables_eq (s : Statement) :
    s.tables.map TableUse.name = s.sources.map plainName := by
  cases s with
  | query q => exact Query.tables_eq q
  | other text => rfl

section

variable (f : List Ident → List Ident)

mutual

/-- Changed names are read in place of the old ones. -/
theorem Query.sources_mapTables : ∀ q : Query, (q.mapTables f).sources = q.sources.map f
  | .mk _ commons body _ => by
      simp only [Query.mapTables, Query.sources, List.map_append,
        CommonTable.sourcesOfAll_mapTables commons, SetExpr.sources_mapTables body]

theorem CommonTable.sourcesOfAll_mapTables : ∀ commons : List CommonTable,
    CommonTable.sourcesOfAll (CommonTable.mapTablesEach f commons) =
      (CommonTable.sourcesOfAll commons).map f
  | [] => rfl
  | c :: rest => by
      simp only [CommonTable.mapTablesEach, CommonTable.sourcesOfAll, List.map_append,
        CommonTable.sources_mapTables c, CommonTable.sourcesOfAll_mapTables rest]

theorem CommonTable.sources_mapTables : ∀ c : CommonTable,
    (c.mapTables f).sources = c.sources.map f
  | .mk _ _ query _ => Query.sources_mapTables query

theorem SetExpr.sources_mapTables : ∀ body : SetExpr,
    (body.mapTables f).sources = body.sources.map f
  | .select select => Select.sources_mapTables select
  | .query query => Query.sources_mapTables query
  | .combine _ left right => by
      simp only [SetExpr.mapTables, SetExpr.sources, List.map_append,
        SetExpr.sources_mapTables left, SetExpr.sources_mapTables right]
  | .other _ => rfl

theorem Select.sources_mapTables : ∀ select : Select,
    (select.mapTables f).sources = select.sources.map f
  | .mk _ _ source _ _ _ => TableTree.sourcesOfAll_mapTables source

theorem TableTree.sourcesOfAll_mapTables : ∀ source : List TableTree,
    TableTree.sourcesOfAll (TableTree.mapTablesEach f source) =
      (TableTree.sourcesOfAll source).map f
  | [] => rfl
  | t :: rest => by
      simp only [TableTree.mapTablesEach, TableTree.sourcesOfAll, List.map_append,
        TableTree.sources_mapTables t, TableTree.sourcesOfAll_mapTables rest]

theorem TableTree.sources_mapTables : ∀ t : TableTree,
    (t.mapTables f).sources = t.sources.map f
  | .mk relation joins => by
      simp only [TableTree.mapTables, TableTree.sources, List.map_append,
        TableFactor.sources_mapTables relation, Join.sourcesOfAll_mapTables joins]

theorem Join.sourcesOfAll_mapTables : ∀ joins : List Join,
    Join.sourcesOfAll (Join.mapTablesEach f joins) = (Join.sourcesOfAll joins).map f
  | [] => rfl
  | j :: rest => by
      simp only [Join.mapTablesEach, Join.sourcesOfAll, List.map_append, Join.sources_mapTables j,
        Join.sourcesOfAll_mapTables rest]

theorem Join.sources_mapTables : ∀ j : Join, (j.mapTables f).sources = j.sources.map f
  | .mk _ relation _ => TableFactor.sources_mapTables relation

theorem TableFactor.sources_mapTables : ∀ t : TableFactor,
    (t.mapTables f).sources = t.sources.map f
  | .table _ _ _ _ => rfl
  | .derived _ query _ => Query.sources_mapTables query
  | .joined tree _ => TableTree.sources_mapTables tree
  | .other _ _ _ => rfl

end

theorem Statement.sources_mapTables (s : Statement) :
    (s.mapTables f).sources = s.sources.map f := by
  cases s with
  | query q => exact Query.sources_mapTables f q
  | other text => rfl

end

/-! ### The text around the tables of one spelling -/

/-- The texts of a select with gaps, put together. -/
def aroundSelect (fromFirst : Bool) (head : Text) (source : Gapped) (middle : Text)
    (selection : Gapped) (tail : Text) : Gapped :=
  let source := if source = .text [] then .text [] else .text "FROM ".toList ++ source
  let front := if fromFirst then [source, .text head] else [.text head, source]
  Gapped.joinWith [' '] (front.filter fun g => g ≠ .text []) ++ .text middle ++ selection ++
    .text tail

section

variable (name : List Ident)

mutual

/-- The text of an expression around the tables of one spelling. -/
def Expr.around : Expr → Gapped
  | .ident n => .text n.render
  | .literal value => .text value.render
  | .compound text => .text text
  | .call text => .text text
  | .unary op operand =>
      match op.placement with
      | .spaced => .text (op.text ++ [' ']) ++ operand.around
      | .attached => .text op.text ++ operand.around
      | .behind => operand.around ++ .text op.text
  | .binary op left right => left.around ++ .text (' ' :: op.render ++ [' ']) ++ right.around
  | .nested inner => .text ['('] ++ inner.around ++ .text [')']
  | .inList operand items negated =>
      operand.around ++ .text (' ' :: renderNot negated ++ "IN ".toList ++ ['(']) ++
        Gapped.joinWith comma (Expr.aroundEach items) ++ .text [')']
  | .existence query negated =>
      .text (renderNot negated ++ "EXISTS ".toList ++ ['(']) ++ query.around ++ .text [')']
  | .subquery query => .text ['('] ++ query.around ++ .text [')']
  | .other text => .text text

/-- The texts of expressions around the tables of one spelling. -/
def Expr.aroundEach : List Expr → List Gapped
  | [] => []
  | e :: rest => e.around :: Expr.aroundEach rest

/-- The text of a clause with its keyword around the tables of one spelling. -/
def Expr.aroundSelection : Option Expr → Gapped
  | none => .text []
  | some e => .text " WHERE ".toList ++ e.around

/-- The text of a query around the tables of one spelling. -/
def Query.around : Query → Gapped
  | .mk isRecursive commons body tail =>
      (if commons.isEmpty then .text []
        else
          .text (if isRecursive then "WITH RECURSIVE ".toList else "WITH ".toList) ++
            Gapped.joinWith comma (CommonTable.aroundEach commons) ++ .text [' ']) ++
        body.around ++ .text tail

/-- The text of a common table around the tables of one spelling. -/
def CommonTable.around : CommonTable → Gapped
  | .mk n mark query tail =>
      .text (n.render ++ " AS ".toList ++ mark ++ ['(']) ++ query.around ++ .text (')' :: tail)

/-- The texts of common tables around the tables of one spelling. -/
def CommonTable.aroundEach : List CommonTable → List Gapped
  | [] => []
  | c :: rest => c.around :: CommonTable.aroundEach rest

/-- The text of a body around the tables of one spelling. -/
def SetExpr.around : SetExpr → Gapped
  | .select select => select.around
  | .query query => .text ['('] ++ query.around ++ .text [')']
  | .combine op left right => left.around ++ .text (' ' :: op ++ [' ']) ++ right.around
  | .other text => .text text

/-- The text of a select around the tables of one spelling. -/
def Select.around : Select → Gapped
  | .mk fromFirst head source middle selection tail =>
      aroundSelect fromFirst head (Gapped.joinWith comma (TableTree.aroundEach source)) middle
        (Expr.aroundSelection selection) tail

/-- The text of a table and its joins around the tables of one spelling. -/
def TableTree.around : TableTree → Gapped
  | .mk relation joins => relation.around ++ Join.aroundAll joins

/-- The texts of tables and their joins around the tables of one spelling. -/
def TableTree.aroundEach : List TableTree → List Gapped
  | [] => []
  | t :: rest => t.around :: TableTree.aroundEach rest

/-- The text of joins around the tables of one spelling. -/
def Join.aroundAll : List Join → Gapped
  | [] => .text []
  | j :: rest => .text [' '] ++ j.around ++ Join.aroundAll rest

/-- The text of a join around the tables of one spelling. -/
def Join.around : Join → Gapped
  | .mk kind relation constraint =>
      .text (kind ++ [' ']) ++ relation.around ++ .text constraint

/-- The text of a table around its name, if that has the spelling. -/
def TableFactor.around : TableFactor → Gapped
  | .table n middle aliasName tail =>
      (if n = name then .gap [] (.text []) else .text (renderName n)) ++
        .text (middle ++ renderAlias aliasName ++ tail)
  | .derived lateral query aliasName =>
      .text ((if lateral then "LATERAL ".toList else []) ++ ['(']) ++ query.around ++
        .text (')' :: renderAlias aliasName)
  | .joined tree aliasName =>
      .text ['('] ++ tree.around ++ .text (')' :: renderAlias aliasName)
  | .other text aliasName tail => .text (text ++ renderAlias aliasName ++ tail)

end

/-- The text of a statement around the tables of one spelling. -/
def Statement.around : Statement → Gapped
  | query q => q.around name
  | other text => .text text

end

/-- The text of several statements around the tables of one spelling. -/
def aroundAll (name : List Ident) (statements : List Statement) : Gapped :=
  Gapped.joinWith "; ".toList (statements.map (Statement.around name))

theorem Expr.renderSelection_some (e : Expr) :
    Expr.renderSelection (some e) = " WHERE ".toList ++ e.render :=
  rfl

theorem Expr.aroundSelection_some (name : List Ident) (e : Expr) :
    Expr.aroundSelection name (some e) = .text " WHERE ".toList ++ e.around name :=
  rfl

section

-- The recursive calls of a mutual block are not seen as uses of the hypotheses.
set_option linter.unusedSectionVars false

variable {x : Text} (hx : x ≠ [])

include hx

theorem fill_aroundSelect (fromFirst : Bool) (head : Text) (source : Gapped) (middle : Text)
    (selection : Gapped) (tail : Text) :
    (aroundSelect fromFirst head source middle selection tail).fill x =
      assembleSelect fromFirst head (source.fill x) middle (selection.fill x) tail := by
  have hempty (g : Gapped) : (g.fill x).isEmpty = decide (g = .text []) := by
    rw [Bool.eq_iff_iff, List.isEmpty_iff, decide_eq_true_eq, Gapped.fill_eq_nil_iff hx]
  have hfilter (gs : List Gapped) : (gs.filter fun g => g ≠ .text []).map (Gapped.fill x) =
      (gs.map (Gapped.fill x)).filter fun s => !s.isEmpty := by
    rw [List.filter_map]
    congr 1
    refine List.filter_congr fun g _ => ?_
    simp [hempty]
  have hsource : (if source = .text [] then Gapped.text [] else .text "FROM ".toList ++ source).fill
      x = if (source.fill x).isEmpty then [] else "FROM ".toList ++ source.fill x := by
    rw [hempty]
    by_cases h : source = .text [] <;> simp [h]
  simp only [aroundSelect, assembleSelect, Gapped.fill_append, Gapped.fill_joinWith,
    Gapped.fill_text, hfilter]
  rw [← hsource]
  cases fromFirst <;> rfl

variable {name new : List Ident} (hnew : renderName new = x)

include hnew

mutual

theorem Expr.render_renameTable : ∀ e : Expr,
    (e.mapTables (renameTable name new)).render = (e.around name).fill x
  | .ident _ => rfl
  | .literal _ => rfl
  | .compound _ => rfl
  | .call _ => rfl
  | .unary op operand => by
      have hoperand := Expr.render_renameTable operand
      obtain ⟨text, placement⟩ := op
      cases placement <;>
        simp only [Expr.mapTables, Expr.render, Expr.around, UnaryOperator.render, hoperand,
          Gapped.fill_append, Gapped.fill_text, List.append_assoc, List.cons_append,
          List.nil_append]
  | .binary op left right => by
      simp only [Expr.mapTables, Expr.render, Expr.around, Expr.render_renameTable left,
        Expr.render_renameTable right, Gapped.fill_append, Gapped.fill_text, List.append_assoc,
        List.cons_append, List.nil_append]
  | .nested inner => by
      simp only [Expr.mapTables, Expr.render, Expr.around, inParens, Expr.render_renameTable inner,
        Gapped.fill_append, Gapped.fill_text, List.cons_append, List.nil_append]
  | .inList operand items negated => by
      simp only [Expr.mapTables, Expr.render, Expr.around, inParens,
        Expr.render_renameTable operand, Expr.renderEach_renameTable items, Gapped.fill_joinWith,
        Gapped.fill_append, Gapped.fill_text, List.append_assoc, List.cons_append, List.nil_append]
  | .existence query negated => by
      simp only [Expr.mapTables, Expr.render, Expr.around, inParens, Query.render_renameTable query,
        Gapped.fill_append, Gapped.fill_text, List.append_assoc, List.cons_append, List.nil_append]
  | .subquery query => by
      simp only [Expr.mapTables, Expr.render, Expr.around, inParens, Query.render_renameTable query,
        Gapped.fill_append, Gapped.fill_text, List.cons_append, List.nil_append]
  | .other _ => rfl

theorem Expr.renderEach_renameTable : ∀ items : List Expr,
    Expr.renderEach (Expr.mapTablesEach (renameTable name new) items) =
      (Expr.aroundEach name items).map (Gapped.fill x)
  | [] => rfl
  | e :: rest => by
      simp only [Expr.mapTablesEach, Expr.renderEach, Expr.aroundEach, Expr.render_renameTable e,
        Expr.renderEach_renameTable rest, List.map_cons]

theorem Expr.renderSelection_renameTable : ∀ clause : Option Expr,
    Expr.renderSelection (Expr.mapTablesOf (renameTable name new) clause) =
      (Expr.aroundSelection name clause).fill x
  | none => rfl
  | some e => by
      rw [Expr.mapTablesOf, Expr.renderSelection_some, Expr.aroundSelection_some,
        Expr.render_renameTable e, Gapped.fill_append, Gapped.fill_text]

/-- A changed name is written into the gaps. -/
theorem Query.render_renameTable : ∀ q : Query,
    (q.mapTables (renameTable name new)).render = (q.around name).fill x
  | .mk isRecursive commons body tail => by
      have hcommons := CommonTable.renderEach_renameTable commons
      have hbody := SetExpr.render_renameTable body
      have hnil (f) : (CommonTable.mapTablesEach f commons).isEmpty = commons.isEmpty := by
        cases commons <;> rfl
      simp only [Query.mapTables, Query.render, Query.around, hnil, hcommons, hbody]
      cases commons.isEmpty <;>
        simp only [Bool.false_eq_true, if_true, if_false, Gapped.fill_joinWith, Gapped.fill_append,
          Gapped.fill_text, List.append_assoc, List.cons_append, List.nil_append]

theorem CommonTable.render_renameTable : ∀ c : CommonTable,
    (c.mapTables (renameTable name new)).render = (c.around name).fill x
  | .mk _ _ query _ => by
      simp only [CommonTable.mapTables, CommonTable.render, CommonTable.around, inParens,
        Query.render_renameTable query, Gapped.fill_append, Gapped.fill_text, List.append_assoc,
        List.cons_append, List.nil_append]

theorem CommonTable.renderEach_renameTable : ∀ commons : List CommonTable,
    CommonTable.renderEach (CommonTable.mapTablesEach (renameTable name new) commons) =
      (CommonTable.aroundEach name commons).map (Gapped.fill x)
  | [] => rfl
  | c :: rest => by
      simp only [CommonTable.mapTablesEach, CommonTable.renderEach, CommonTable.aroundEach,
        CommonTable.render_renameTable c, CommonTable.renderEach_renameTable rest, List.map_cons]

theorem SetExpr.render_renameTable : ∀ body : SetExpr,
    (body.mapTables (renameTable name new)).render = (body.around name).fill x
  | .select select => Select.render_renameTable select
  | .query query => by
      simp only [SetExpr.mapTables, SetExpr.render, SetExpr.around, inParens,
        Query.render_renameTable query, Gapped.fill_append, Gapped.fill_text, List.cons_append,
        List.nil_append]
  | .combine op left right => by
      simp only [SetExpr.mapTables, SetExpr.render, SetExpr.around, SetExpr.render_renameTable left,
        SetExpr.render_renameTable right, Gapped.fill_append, Gapped.fill_text, List.append_assoc,
        List.cons_append, List.nil_append]
  | .other _ => rfl

theorem Select.render_renameTable : ∀ select : Select,
    (select.mapTables (renameTable name new)).render = (select.around name).fill x
  | .mk fromFirst head source middle selection tail => by
      rw [Select.mapTables, Select.render, Select.around, fill_aroundSelect hx,
        Gapped.fill_joinWith, TableTree.renderEach_renameTable source,
        Expr.renderSelection_renameTable selection]

theorem TableTree.render_renameTable : ∀ t : TableTree,
    (t.mapTables (renameTable name new)).render = (t.around name).fill x
  | .mk relation joins => by
      simp only [TableTree.mapTables, TableTree.render, TableTree.around,
        TableFactor.render_renameTable relation, Join.renderAll_renameTable joins,
        Gapped.fill_append]

theorem TableTree.renderEach_renameTable : ∀ source : List TableTree,
    TableTree.renderEach (TableTree.mapTablesEach (renameTable name new) source) =
      (TableTree.aroundEach name source).map (Gapped.fill x)
  | [] => rfl
  | t :: rest => by
      simp only [TableTree.mapTablesEach, TableTree.renderEach, TableTree.aroundEach,
        TableTree.render_renameTable t, TableTree.renderEach_renameTable rest, List.map_cons]

theorem Join.renderAll_renameTable : ∀ joins : List Join,
    Join.renderAll (Join.mapTablesEach (renameTable name new) joins) =
      (Join.aroundAll name joins).fill x
  | [] => rfl
  | j :: rest => by
      simp only [Join.mapTablesEach, Join.renderAll, Join.aroundAll, Join.render_renameTable j,
        Join.renderAll_renameTable rest, Gapped.fill_append, Gapped.fill_text, List.cons_append,
        List.nil_append]

theorem Join.render_renameTable : ∀ j : Join,
    (j.mapTables (renameTable name new)).render = (j.around name).fill x
  | .mk kind relation constraint => by
      simp only [Join.mapTables, Join.render, Join.around, TableFactor.render_renameTable relation,
        Gapped.fill_append, Gapped.fill_text, List.append_assoc, List.cons_append, List.nil_append]

theorem TableFactor.render_renameTable : ∀ t : TableFactor,
    (t.mapTables (renameTable name new)).render = (t.around name).fill x
  | .table n middle aliasName tail => by
      by_cases hn : n = name
      · simp only [TableFactor.mapTables, TableFactor.render, TableFactor.around, renameTable,
          if_pos hn, hnew, Gapped.fill, Gapped.fill_append, List.append_assoc, List.nil_append,
          List.append_nil]
      · simp only [TableFactor.mapTables, TableFactor.render, TableFactor.around, renameTable,
          if_neg hn, Gapped.fill_append, Gapped.fill_text, List.append_assoc]
  | .derived lateral query aliasName => by
      simp only [TableFactor.mapTables, TableFactor.render, TableFactor.around, inParens,
        Query.render_renameTable query, Gapped.fill_append, Gapped.fill_text, List.append_assoc,
        List.cons_append, List.nil_append]
  | .joined tree aliasName => by
      simp only [TableFactor.mapTables, TableFactor.render, TableFactor.around, inParens,
        TableTree.render_renameTable tree, Gapped.fill_append, Gapped.fill_text, List.append_assoc,
        List.cons_append, List.nil_append]
  | .other _ _ _ => rfl

end

theorem Statement.render_renameTable (s : Statement) :
    (s.mapTables (renameTable name new)).render = (s.around name).fill x := by
  cases s with
  | query q => exact Query.render_renameTable hx hnew q
  | other text => rfl

/-- **A changed name is written into the gaps** between the texts around the old one. -/
theorem renderAll_renameTable (statements : List Statement) :
    renderAll (statements.map (Statement.mapTables (renameTable name new))) =
      (aroundAll name statements).fill x := by
  rw [renderAll, aroundAll, Gapped.fill_joinWith, List.map_map, List.map_map]
  congr 1
  exact List.map_congr_left fun s _ => Statement.render_renameTable hx hnew s

end

/-- With the name itself in the gaps, the text is that of the statements. -/
theorem fill_aroundAll {name : List Ident} (hname : renderName name ≠ [])
    (statements : List Statement) :
    (aroundAll name statements).fill (renderName name) = renderAll statements := by
  rw [← renderAll_renameTable hname rfl, renameTable_self]
  congr 1
  exact List.map_id'' Statement.mapTables_id statements

end Sql

end Pushdown
