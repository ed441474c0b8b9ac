/-
**What a faithful plan reads.**

A plan that is read as planned reads the tables of the given statements, and the new table in place
of the old one where the old name stands in quotes.  A table that is spelled in another way is
recognised by its plain name all the same, so the bindings move while the statement goes on reading
the old table.  Bindings are taken from every statement of a text, whichever table it reads: one
that does not read the given table loses its bindings to that table.

Main results:

* `Plan.readsFrom_iff` — the plain names of the tables that are read;
* `Plan.sources_planned` — the tables that are planned to be read;
* `Plan.reads_target_iff` — **when a faithful plan reads the new table and not the old one**;
* `Plan.separate_statement` — **when a statement that reads another table stays as it is**.
-/

import Pushdown.Proofs.Plan.Redirect

set_option autoImplicit false

namespace Pushdown

namespace Plan

open Sql (Ident Statement IsBinding)

/-! ### The tables that are read -/

/-- Statements read from a table if a table in them has its plain name. -/
theorem readsFrom_iff {name : Text} {statements : List Statement} :
    readsFrom name statements = true ↔
      ∃ parts ∈ statements.flatMap Statement.sources, Sql.plainName parts = name := by
  have hnames : (statements.flatMap Statement.tables).map Sql.TableUse.name =
      (statements.flatMap Statement.sources).map Sql.plainName := by
    rw [List.map_flatMap, List.map_flatMap]
    exact congrArg (List.flatMap · statements) (funext Statement.tables_eq)
  calc readsFrom name statements = true
      ↔ name ∈ (statements.flatMap Statement.tables).map Sql.TableUse.name := by
        simp only [readsFrom, List.any_eq_true, beq_iff_eq, List.mem_map]
    _ ↔ _ := by rw [hnames, List.mem_map]

theorem plainName_inQuotes (quote : Char) (name : Text) :
    Sql.plainName (inQuotes quote name) = name := rfl

/-- A name that is changed where it is the old one in double quotes or in backquotes. -/
def retargetName (source target : Text) (name : List Ident) : List Ident :=
  Sql.renameTable (inQuotes '\x60' source) (inQuotes '\x60' target)
    (Sql.renameTable (inQuotes '"' source) (inQuotes '"' target) name)

theorem retargetName_inQuotes {quote : Char} (hquote : IsTableQuote quote) (source target : Text) :
    retargetName source target (inQuotes quote source) = inQuotes quote target := by
  rcases hquote with rfl | rfl <;> simp [retargetName, Sql.renameTable, inQuotes]

/-- A name that is spelled in another way is not changed. -/
theorem retargetName_of_ne {source target : Text} {name : List Ident}
    (h : ∀ quote, IsTableQuote quote → name ≠ inQuotes quote source) :
    retargetName source target name = name := by
  rw [retargetName, Sql.renameTable, Sql.renameTable, if_neg (h '"' (Or.inl rfl)),
    if_neg (h '\x60' (Or.inr rfl))]

theorem sources_retarget (source target : Text) (s : Statement) :
    (retarget source target s).sources = s.sources.map (retargetName source target) := by
  rw [retarget, retargetQuoted, retargetQuoted, Statement.sources_mapTables,
    Statement.sources_mapTables, List.map_map]
  rfl

/-- The tables that are planned to be read. -/
theorem sources_planned (w : Whitelist) (source target : Text) (statements : List Statement) :
    (planned w source target statements).flatMap Statement.sources =
      (statements.flatMap Statement.sources).map (retargetName source target) := by
  rw [planned, Sql.extractAll_eq_map, List.map_map, List.flatMap_map, List.map_flatMap]
  refine congrArg (List.flatMap · statements) (funext fun s => ?_)
  rw [Function.comp_apply, sources_retarget, Statement.sources_extract]

section

variable {c : Config} {uri sql : Text} {statements : List Statement} {p : Plan}
  (h : Moves c uri sql statements p) (hfaithful : Faithful c uri statements p)

include h hfaithful

/-- **A faithful plan reads the new table and not the old one** exactly if every table by the old
name is spelled as one name in double quotes or in backquotes.  If the text of what is left has no
such name in it, then nothing is written over at all. -/
theorem reads_target_iff (hne : p.uri ≠ Text.trim uri) :
    ((∃ trees, Sql.parse c.dialect p.sql = .ok trees ∧ readsFrom p.uri trees = true ∧
        readsFrom (Text.trim uri) trees = false) ↔
      ∀ name ∈ statements.flatMap Statement.sources, Sql.plainName name = Text.trim uri →
        ∃ quote, IsTableQuote quote ∧ name = inQuotes quote (Text.trim uri)) ∧
    (let cleaned := Cleanup.sanitize (Sql.renderAll (Sql.extractAll c.whitelist statements).1)
     (∀ quote, IsTableQuote quote → ¬ quoted quote (Text.trim uri) <:+: cleaned) →
      Sql.canonicalize c.dialect cleaned = .ok p.sql) := by
  have hsources := sources_planned c.whitelist (Text.trim uri) p.uri statements
  refine ⟨⟨?_, fun hspelled => ⟨_, hfaithful, ?_, ?_⟩⟩, fun hnone => ?_⟩
  · rintro ⟨trees, hparse, -, hold⟩ name hname hplain
    rw [hfaithful, Except.ok.injEq] at hparse
    by_contra hother
    -- A name that is spelled in another way is read as before.
    have hkept : retargetName (Text.trim uri) p.uri name = name :=
      retargetName_of_ne fun quote hquote heq => hother ⟨quote, hquote, heq⟩
    have hread : readsFrom (Text.trim uri) trees = true := by
      rw [readsFrom_iff, ← hparse, hsources]
      exact ⟨name, List.mem_map.2 ⟨name, hname, hkept⟩, hplain⟩
    rw [hold] at hread
    exact absurd hread (by simp)
  · obtain ⟨name, hname, hplain⟩ := readsFrom_iff.1 h.table
    obtain ⟨quote, hquote, rfl⟩ := hspelled name hname hplain
    rw [readsFrom_iff, hsources]
    exact ⟨_, List.mem_map.2 ⟨_, hname, retargetName_inQuotes hquote _ _⟩,
      plainName_inQuotes quote p.uri⟩
  · rw [← Bool.not_eq_true, readsFrom_iff, hsources]
    rintro ⟨parts, hparts, hplain⟩
    obtain ⟨name, hname, rfl⟩ := List.mem_map.1 hparts
    by_cases hquoted : ∃ quote, IsTableQuote quote ∧ name = inQuotes quote (Text.trim uri)
    · obtain ⟨quote, hquote, rfl⟩ := hquoted
      rw [retargetName_inQuotes hquote, plainName_inQuotes] at hplain
      exact hne hplain
    · rw [retargetName_of_ne fun quote hquote heq => hquoted ⟨quote, hquote, heq⟩] at hplain
      exact hquoted (hspelled name hname hplain)
  · have hsql := h.sql_eq
    rwa [residualText, redirect, if_neg (Ne.symm hne), redirectQuoted, redirectQuoted,
      Text.replaceAll_eq_self (hnone '"' (Or.inl rfl)),
      Text.replaceAll_eq_self (hnone '\x60' (Or.inr rfl))] at hsql

end

set_option maxRecDepth 100000 in
/-- The plan of two statements is read as planned. -/
theorem faithful_pairPlan : Faithful Config.default "/a".toList
    (pairStatements "/a".toList "/b".toList (some oneCondition) none) pairPlan :=
  canonical_pairPlan.parse.trans (by decide +kernel)

theorem reads_target_pairPlan :
    ∃ trees, Sql.parse .postgresql pairPlan.sql = .ok trees ∧
      readsFrom pairPlan.uri trees = true ∧ readsFrom "/a".toList trees = false := by
  have hspelled : ∀ name ∈ (pairStatements "/a".toList "/b".toList (some oneCondition) none).flatMap
      Statement.sources, Sql.plainName name = Text.trim "/a".toList →
        ∃ quote, IsTableQuote quote ∧ name = inQuotes quote (Text.trim "/a".toList) := by
    intro name hname hplain
    have htwo : (pairStatements "/a".toList "/b".toList (some oneCondition) none).flatMap
        Statement.sources = [inQuotes '"' "/a".toList, inQuotes '"' "/b".toList] := rfl
    rw [htwo, List.mem_cons, List.mem_singleton] at hname
    rcases hname with rfl | rfl
    · exact ⟨'"', Or.inl rfl, by decide⟩
    · exact absurd hplain (by decide)
  exact (reads_target_iff moves_pairPlan faithful_pairPlan uri_pairPlan_ne).1.2 hspelled

/-- The plan of a statement that spells its table in brackets. -/
def bracketPlan : Plan where
  uri := "/a?x=1".toList
  sql := "SELECT * FROM [/a]".toList
  bindings := [⟨.param "x".toList, ["1".toList]⟩]

set_option maxRecDepth 100000 in
/-- A table in brackets is recognised, but not written over. -/
theorem reads_source_bracketPlan :
    let c : Config := ⟨.sqlite, .empty, .default⟩
    make c "/a".toList "SELECT * FROM [/a] WHERE \"QUERY_PARAMx\" = 1".toList = .ok bracketPlan ∧
      ¬ ∃ trees, Sql.parse .sqlite bracketPlan.sql = .ok trees ∧
        readsFrom bracketPlan.uri trees = true ∧ readsFrom "/a".toList trees = false := by
  intro c
  have hsql : Canonical .sqlite "SELECT * FROM [/a] WHERE \"QUERY_PARAMx\" = 1".toList
      [reading "SELECT *".toList (inQuotes '[' "/a".toList) (some oneCondition)] :=
    ⟨by decide +kernel, by decide, by decide +kernel⟩
  have hcanonical : Canonical .sqlite bracketPlan.sql
      [reading "SELECT *".toList (inQuotes '[' "/a".toList) none] :=
    ⟨by decide +kernel, by decide, by decide +kernel⟩
  have hmoves : Moves c "/a".toList "SELECT * FROM [/a] WHERE \"QUERY_PARAMx\" = 1".toList
      [reading "SELECT *".toList (inQuotes '[' "/a".toList) (some oneCondition)] bracketPlan :=
    hsql.moves hcanonical (by decide +kernel) (by decide +kernel) (by decide) (by decide +kernel)
      (by decide +kernel)
  refine ⟨hmoves.make_eq, ?_⟩
  rintro ⟨trees, htrees, hread, -⟩
  rw [hcanonical.parse, Except.ok.injEq] at htrees
  rw [← htrees] at hread
  exact absurd hread (by decide +kernel)

/-! ### Statements that read other tables -/

section

variable {c : Config} {uri sql : Text} {statements : List Statement} {p : Plan}
  (h : Moves c uri sql statements p) (hfaithful : Faithful c uri statements p)

include h hfaithful

/-- **A statement that reads other tables** goes on reading them, but its bindings move to the given
table between those of the statements around it.  It adds nothing to that table and stays as it is
exactly if no leaf that is visited is a binding (and no query in its conditions names the table). -/
theorem separate_statement {front back : List Statement} {s : Statement}
    (hsplit : statements = front ++ s :: back)
    (hother : readsFrom (Text.trim uri) [s] = false) :
    p.bindings = (Sql.extractAll c.whitelist front).2 ++ (s.extract c.whitelist).2 ++
        (Sql.extractAll c.whitelist back).2 ∧
      ((s.extract c.whitelist).2 = [] ↔
        ∀ leaf ∈ s.visited, ∀ b, ¬ IsBinding c.whitelist leaf b) ∧
      ∃ trees t, Sql.parse c.dialect p.sql = .ok trees ∧ trees[front.length]? = some t ∧
        t.sources = s.sources ∧
        (t = s ↔ (∀ leaf ∈ s.visited, ∀ b, ¬ IsBinding c.whitelist leaf b) ∧
          retarget (Text.trim uri) p.uri s = s) := by
  have hnone := Statement.extract_bindings_eq_nil_iff c.whitelist s
  have hplace : (planned c.whitelist (Text.trim uri) p.uri statements)[front.length]? =
      some (retarget (Text.trim uri) p.uri (s.extract c.whitelist).1) := by
    rw [planned, Sql.extractAll_eq_map, List.map_map, hsplit, List.getElem?_map,
      List.getElem?_append_right (Nat.le_refl _), Nat.sub_self]
    rfl
  refine ⟨?_, hnone, _, _, hfaithful, hplace, ?_, ?_⟩
  · rw [h.bindings, hsplit, Sql.extractAll_bindings_append, List.append_assoc]
    rfl
  · have hnames : ∀ name ∈ s.sources, retargetName (Text.trim uri) p.uri name = name := by
      intro name hname
      refine retargetName_of_ne fun quote _ heq => ?_
      have hread : readsFrom (Text.trim uri) [s] = true :=
        readsFrom_iff.2 ⟨name, by simpa using hname, by rw [heq, plainName_inQuotes]⟩
      rw [hother] at hread
      exact absurd hread (by simp)
    rw [sources_retarget, Statement.sources_extract, List.map_congr_left hnames, List.map_id']
  · rw [← hnone]
    constructor
    · intro hsame
      have hnil : (s.extract c.whitelist).2 = [] := by
        have hmoved := (extract_bindings_retarget c.whitelist (Text.trim uri) p.uri _).2
          (Statement.extract_residual_bindings c.whitelist s)
        rwa [hsame] at hmoved
      rw [(Statement.extract_eq_self_iff c.whitelist s).2 hnil] at hsame
      exact ⟨hnil, hsame⟩
    · rintro ⟨hnil, hsame⟩
      rw [(Statement.extract_eq_self_iff c.whitelist s).2 hnil, hsame]

end

theorem separate_statement_pairPlan :
    let s := reading "SELECT *".toList (inQuotes '"' "/b".toList) none
    readsFrom (Text.trim "/a".toList) [s] = false ∧
      ∃ trees t, Sql.parse .postgresql pairPlan.sql = .ok trees ∧ trees[1]? = some t ∧ t = s := by
  intro s
  have hsplit : pairStatements "/a".toList "/b".toList (some oneCondition) none =
      [reading "SELECT *".toList (inQuotes '"' "/a".toList) (some oneCondition)] ++ s :: [] := rfl
  have hother : readsFrom (Text.trim "/a".toList) [s] = false := by decide
  obtain ⟨-, -, trees, t, hparse, hplace, -, hsame⟩ :=
    separate_statement moves_pairPlan faithful_pairPlan hsplit hother
  have hvisited : s.visited = [] := rfl
  refine ⟨hother, trees, t, hparse, hplace, hsame.2 ⟨?_, rfl⟩⟩
  rw [hvisited]
  exact fun leaf hleaf => absurd hleaf List.not_mem_nil

set_option maxRecDepth 100000 in
/-- The condition of a statement that reads another table moves to the given one. -/
theorem separate_statement_loses_binding :
    let sql :=
      "SELECT * FROM \"/a\"; SELECT * FROM \"/b\" WHERE \"QUERY_PARAMx\" = 1".toList
    let statements := pairStatements "/a".toList "/b".toList none (some oneCondition)
    let s := reading "SELECT *".toList (inQuotes '"' "/b".toList) (some oneCondition)
    ReadsAs Config.default sql statements ∧ statements[1]? = some s ∧
      readsFrom "/a".toList [s] = false ∧
      make Config.default "/a".toList sql = .ok pairPlan ∧
      pairPlan.bindings = (s.extract Whitelist.empty).2 ∧ pairPlan.bindings ≠ [] ∧
      ∃ trees t, Sql.parse .postgresql pairPlan.sql = .ok trees ∧ trees[1]? = some t ∧ t ≠ s := by
  intro sql statements s
  have hsql : Canonical .postgresql sql statements :=
    ⟨by decide +kernel, by decide, by decide +kernel⟩
  have hmoves : Moves Config.default "/a".toList sql statements pairPlan :=
    hsql.moves canonical_pairPlan (by decide +kernel) (by decide +kernel) (by decide)
      (by decide +kernel) (by decide +kernel)
  exact ⟨hsql.readsAs, rfl, by decide +kernel, hmoves.make_eq, by decide +kernel, by decide,
    _, _, canonical_pairPlan.parse, rfl, by decide +kernel⟩

end Plan

end Pushdown
