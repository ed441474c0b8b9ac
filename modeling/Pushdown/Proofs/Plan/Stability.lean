/-
**Planning a plan again.**

A statement that was planned once should have nothing left to move.  Its tree has nothing left, but
its text is then cleaned, pointed at the new table wherever the old name stands in quotes, and read
again.  As long as the old name stands there for tables only and the cleanup finds nothing to do,
the statement is read as it was planned and a second run moves nothing.  A column that is spelled
like the table, in quotes, is touched: it gets the name of the new table, which may belong to the
request.

Main definitions:

* `Plan.Untouched` — the cleanup and the redirection change the tables of a plan and nothing else;
* `Plan.IsTouched` — a leaf of what a plan is read as that is none of its tree;
* `Plan.Reopens` — a touched leaf of a plan is a binding.

Main results:

* `Plan.not_isBinding_of_mem_planned`, `Plan.not_isBinding_of_mem_residual` — the tree that is left
  has no binding, whichever table it reads;
* `Plan.Moves.canonical_of_untouched` — an untouched plan is written as planned;
* `Plan.Moves.finds_iff_reopens` — a second run finds a binding exactly if a touched leaf is one;
* `Plan.uri_ne_of_pairs` — a value that is moved changes the table;
* `Plan.orInput_fixed_iff` — **a plan is stable exactly if it does not reopen**.
-/

import Pushdown.Proofs.Plan.Redirect

set_option autoImplicit false

namespace Pushdown

namespace Plan

open Sql (Expr Statement)

theorem orInput_of_make {c : Config} {uri sql : Text} {p : Plan} (h : make c uri sql = .ok p) :
    orInput c uri sql = (p.uri, p.sql) := by
  rw [orInput, h]

/-- The table of a plan with bindings has no blanks at its ends. -/
theorem Moves.trim_uri {c : Config} {uri sql : Text} {statements : List Statement} {p : Plan}
    (h : Moves c uri sql statements p) : Text.trim p.uri = p.uri := by
  rw [h.uri_eq]
  exact trim_extend (Text.trim_trim uri) p.bindings

/-! ### The tree that is left -/

/-- No leaf of what is planned is a binding. -/
theorem not_isBinding_of_mem_planned (w : Whitelist) (source target : Text)
    (statements : List Statement) :
    ∀ leaf ∈ (planned w source target statements).flatMap Statement.visited,
      ∀ b, ¬ Sql.IsBinding w leaf b := by
  intro leaf hleaf
  obtain ⟨s, hs, hleaf⟩ := List.mem_flatMap.1 hleaf
  rw [planned, Sql.extractAll_eq_map, List.map_map] at hs
  obtain ⟨given, -, rfl⟩ := List.mem_map.1 hs
  have hnone := (extract_bindings_retarget w source target _).2
    (Statement.extract_residual_bindings w given)
  exact (Statement.extract_bindings_eq_nil_iff w _).1 hnone leaf hleaf

/-- No leaf of statements without their bindings is a binding. -/
theorem not_isBinding_of_mem_residual (w : Whitelist) (statements : List Statement) :
    ∀ leaf ∈ (Sql.extractAll w statements).1.flatMap Statement.visited,
      ∀ b, ¬ Sql.IsBinding w leaf b := by
  rw [← planned_self w [] statements]
  exact not_isBinding_of_mem_planned w [] [] statements

/-! ### What is touched -/

/-- The cleanup and the redirection change the tables of a plan and nothing else. -/
structure Untouched (c : Config) (uri : Text) (statements : List Statement) (p : Plan) : Prop where
  /-- The cleanup finds nothing to do. -/
  tidy : Cleanup.Tidy (Sql.renderAll (Sql.extractAll c.whitelist statements).1)
  /-- The old name can be written in both quotes. -/
  quotable : ∀ quote, IsTableQuote quote → Quotable quote (Text.trim uri)
  /-- No column, second name or literal is written like the old name in double quotes. -/
  double : Confined '"' (Text.trim uri) (Sql.extractAll c.whitelist statements).1
  /-- Nor is one written like it in backquotes. -/
  back : Confined '\x60' (Text.trim uri)
    ((Sql.extractAll c.whitelist statements).1.map (retargetQuoted '"' (Text.trim uri) p.uri))
  /-- What is planned is read back from its own text. -/
  reads_back : Sql.parse c.dialect
    (Sql.renderAll (planned c.whitelist (Text.trim uri) p.uri statements)) =
      .ok (planned c.whitelist (Text.trim uri) p.uri statements)

/-- A leaf of what the statement of a plan is read as is touched if the tree of the plan has no such
leaf: the redirection wrote over a name or a literal in it, or the cleanup over what stood around
it. -/
def IsTouched (c : Config) (uri : Text) (statements : List Statement) (p : Plan)
    (again : List Statement) (leaf : Expr) : Prop :=
  leaf ∈ again.flatMap Statement.visited ∧
    leaf ∉ (planned c.whitelist (Text.trim uri) p.uri statements).flatMap Statement.visited

/-- A plan reopens if a touched leaf of its statement is a binding.  The statement has to read from
the new table as well, and what is left of it has to be readable once more. -/
def Reopens (c : Config) (uri : Text) (statements : List Statement) (p : Plan) : Prop :=
  ∃ again, ReadsAs c p.sql again ∧
    (∃ leaf, IsTouched c uri statements p again leaf ∧ ∃ b, Sql.IsBinding c.whitelist leaf b) ∧
    readsFrom p.uri again = true ∧ Resumes c p.uri again

section

variable {c : Config} {uri sql : Text} {statements : List Statement} {p : Plan}
  (h : Moves c uri sql statements p)

include h

/-- The text of an untouched plan is written as planned. -/
theorem Moves.residualText_of_untouched (huntouched : Untouched c uri statements p) :
    residualText c.whitelist (Text.trim uri) p.uri statements =
      Sql.renderAll (planned c.whitelist (Text.trim uri) p.uri statements) := by
  by_cases hne : p.uri = Text.trim uri
  · rw [hne, planned_self, residualText, Cleanup.sanitize_eq_self_iff.2 huntouched.tidy, redirect,
      if_pos rfl]
  · exact residualText_eq_renderAll_planned h hne huntouched.quotable huntouched.tidy
      huntouched.double huntouched.back

/-- The statement of an untouched plan is the text of what is planned, and is read as that. -/
theorem Moves.canonical_of_untouched (huntouched : Untouched c uri statements p) :
    Canonical c.dialect p.sql (planned c.whitelist (Text.trim uri) p.uri statements) := by
  have hsql := h.sql_eq
  rw [h.residualText_of_untouched huntouched] at hsql
  exact Canonical.of_canonicalize hsql huntouched.reads_back rfl

theorem Moves.not_reopens_of_untouched (huntouched : Untouched c uri statements p) :
    ¬ Reopens c uri statements p := by
  rintro ⟨again, hagain, ⟨leaf, ⟨hleaf, hnot⟩, -⟩, -⟩
  obtain rfl := (h.canonical_of_untouched huntouched).eq_of_readsAs hagain
  exact hnot hleaf

/-- A second run finds something exactly if the plan reopens. -/
theorem Moves.finds_iff_reopens : Finds c p.uri p.sql ↔ Reopens c uri statements p := by
  rw [finds_iff, h.trim_uri]
  constructor
  · rintro ⟨again, hagain, htable, ⟨leaf, hleaf, b, hb⟩, hresumes⟩
    have hnot : leaf ∉ _ := fun hplanned =>
      not_isBinding_of_mem_planned c.whitelist (Text.trim uri) p.uri statements leaf hplanned b hb
    exact ⟨again, hagain, ⟨leaf, ⟨hleaf, hnot⟩, b, hb⟩, htable, hresumes⟩
  · rintro ⟨again, hagain, ⟨leaf, ⟨hleaf, -⟩, hb⟩, htable, hresumes⟩
    exact ⟨again, hagain, htable, ⟨leaf, hleaf, hb⟩, hresumes⟩

end

/-! ### A second run -/

/-- A value that is moved changes the table. -/
theorem uri_ne_of_pairs {c : Config} {uri sql : Text} {p : Plan} (h : make c uri sql = .ok p)
    (hpairs : pairs p.bindings ≠ []) : p.uri ≠ uri := by
  have hne : p.bindings ≠ [] := by
    rintro hnil
    rw [hnil] at hpairs
    exact hpairs rfl
  obtain ⟨statements, hmoves⟩ := exists_moves h hne
  intro huri
  have htrim : Text.trim uri = uri := huri ▸ hmoves.trim_uri
  have hrow : ∀ pair ∈ pairs p.bindings, pair ≠ [] := by
    intro pair hpair
    obtain ⟨b, -, v, -, rfl⟩ := mem_pairs.1 hpair
    exact b.target.pair_ne_nil v
  have hlength := length_le_extend (Text.trim uri) hrow
  have hpos : 0 < (pairs p.bindings).length := List.length_pos_iff.2 hpairs
  rw [← hmoves.uri_eq, htrim, huri] at hlength
  omega

/-- **Stability of plans.**  A second run finds nothing and returns the table and the statement of
the first one exactly if the first one had nothing to move or its plan does not reopen.  A plan does
not reopen if it is untouched: if the old name stands in quotes for tables only, the cleanup finds
nothing to do and what is planned is read back.  The tree of the first statement never has a binding
left, so only its text can; and a second run that moves a value changes the table. -/
theorem orInput_fixed_iff (c : Config) (uri sql : Text) :
    ((let first := orInput c uri sql
      ¬ Finds c first.1 first.2 ∧ orInput c first.1 first.2 = first) ↔
        ∀ statements p, Moves c uri sql statements p → ¬ Reopens c uri statements p) ∧
      (∀ statements p, Moves c uri sql statements p → Untouched c uri statements p →
        ¬ Finds c p.uri p.sql ∧ orInput c p.uri p.sql = (p.uri, p.sql)) ∧
      (∀ statements, ∀ leaf ∈ (Sql.extractAll c.whitelist statements).1.flatMap
        Sql.Statement.visited, ∀ b, ¬ Sql.IsBinding c.whitelist leaf b) ∧
      ∀ table statement p, make c table statement = .ok p → pairs p.bindings ≠ [] →
        (orInput c table statement).1 ≠ table := by
  refine ⟨⟨?_, ?_⟩, ?_, not_isBinding_of_mem_residual c.whitelist, ?_⟩
  · rintro ⟨hfinds, -⟩ statements p hmoves hreopens
    rw [orInput_of_make hmoves.make_eq] at hfinds
    exact hfinds (hmoves.finds_iff_reopens.2 hreopens)
  · intro h
    have hfinds : ¬ Finds c (orInput c uri sql).1 (orInput c uri sql).2 := by
      by_cases hfirst : Finds c uri sql
      · obtain ⟨p, hp, hne⟩ := hfirst
        obtain ⟨statements, hmoves⟩ := exists_moves hp hne
        rw [orInput_of_make hp]
        exact fun hsecond => h statements p hmoves (hmoves.finds_iff_reopens.1 hsecond)
      · rw [orInput_of_not_finds hfirst]
        exact hfirst
    exact ⟨hfinds, orInput_of_not_finds hfinds⟩
  · intro statements p hmoves huntouched
    have hfinds : ¬ Finds c p.uri p.sql := fun hsecond =>
      hmoves.not_reopens_of_untouched huntouched (hmoves.finds_iff_reopens.1 hsecond)
    exact ⟨hfinds, orInput_of_not_finds hfinds⟩
  · intro table statement p hp hpairs
    rw [orInput_of_make hp]
    exact uri_ne_of_pairs hp hpairs

set_option maxRecDepth 100000 in
/-- The plan of two statements is untouched, and stable. -/
theorem orInput_fixed_pairPlan :
    Untouched Config.default "/a".toList
        (pairStatements "/a".toList "/b".toList (some oneCondition) none) pairPlan ∧
      orInput Config.default "/a".toList pairSql = (pairPlan.uri, pairPlan.sql) ∧
      orInput Config.default pairPlan.uri pairPlan.sql = (pairPlan.uri, pairPlan.sql) := by
  have huntouched : Untouched Config.default "/a".toList
      (pairStatements "/a".toList "/b".toList (some oneCondition) none) pairPlan :=
    { tidy := Cleanup.sanitize_eq_self_iff.1 (by decide +kernel)
      quotable := by rintro quote (rfl | rfl) <;> decide
      double := by decide +kernel
      back := by decide +kernel
      reads_back := by decide +kernel }
  obtain ⟨-, hstable, -⟩ := orInput_fixed_iff Config.default "/a".toList pairSql
  exact ⟨huntouched, orInput_of_make moves_pairPlan.make_eq,
    (hstable _ _ moves_pairPlan huntouched).2⟩

set_option maxRecDepth 100000 in
/-- A column that is spelled like the table becomes a parameter when the table grows. -/
theorem orInput_column_of_table :
    let sql := "SELECT * FROM \"QUERY_PARAM\" WHERE \"QUERY_PARAM\" = 1 AND QUERY_PARAMx = 2"
    let first := orInput Config.default "QUERY_PARAM".toList sql.toList
    first = ("QUERY_PARAM?x=2".toList,
        "SELECT * FROM \"QUERY_PARAM?x=2\" WHERE \"QUERY_PARAM?x=2\" = 1".toList) ∧
      orInput Config.default first.1 first.2 ≠ first := by
  decide +kernel

/-- In that statement the name in quotes is not written for tables only. -/
example : ¬ Confined '"' "QUERY_PARAM".toList
    [reading "SELECT *".toList (inQuotes '"' "QUERY_PARAM".toList)
      (some (.binary .eq (.ident ⟨"QUERY_PARAM".toList, some '"'⟩)
        (.literal (.plain "1".toList))))] := by
  decide +kernel

end Plan

end Pushdown
