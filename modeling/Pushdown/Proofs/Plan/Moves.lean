/-
**What a plan does.**

A plan is made in one of two ways: nothing is moved and it is the input, or the bindings of the
statements move to the table and the rest of the statements is written again.

Main definitions:

* `Plan.ReadsAs` — the statements that a text is read as;
* `Plan.Moves` — a plan moves the bindings of statements to the table;
* `Plan.Resumes` — what is left of statements can be read again;
* `Plan.Finds` — there is a binding to move.

Main results:

* `Plan.make_eq_ok_iff` — the two ways a plan is made;
* `Plan.finds_iff` — when there is a binding to move.
-/

import Pushdown.Proofs.Binding.Residual
import Pushdown.Proofs.Outcome
import Pushdown.Proofs.Table.Append

set_option autoImplicit false

namespace Pushdown

namespace Plan

/-- The statements that the canonical form of a text is read as. -/
def ReadsAs (c : Config) (sql : Text) (statements : List Sql.Statement) : Prop :=
  ∃ canonical, Sql.canonicalize c.dialect sql = .ok canonical ∧
    Sql.parse c.dialect canonical = .ok statements

/-- The text of statements without their bindings that read from another table. -/
def residualText (w : Whitelist) (source target : Text) (statements : List Sql.Statement) : Text :=
  redirect source target (Cleanup.sanitize (Sql.renderAll (Sql.extractAll w statements).1))

/-- A plan that moves the bindings of statements to the table. -/
structure Moves (c : Config) (uri sql : Text) (statements : List Sql.Statement) (p : Plan) :
    Prop where
  reads : ReadsAs c sql statements
  table : readsFrom (Text.trim uri) statements = true
  bindings : p.bindings = (Sql.extractAll c.whitelist statements).2
  bindings_ne_nil : p.bindings ≠ []
  uri_eq : p.uri = extend (Text.trim uri) (pairs p.bindings)
  sql_eq : Sql.canonicalize c.dialect
    (residualText c.whitelist (Text.trim uri) p.uri statements) = .ok p.sql

/-- There is nothing to move: the table is not read, or no condition is a binding. -/
def Rests (c : Config) (uri : Text) (statements : List Sql.Statement) : Prop :=
  readsFrom (Text.trim uri) statements = false ∨ (Sql.extractAll c.whitelist statements).2 = []

theorem make_eq_ofStatements {c : Config} {sql : Text} {statements : List Sql.Statement}
    (h : ReadsAs c sql statements) (uri : Text) :
    make c uri sql = ofStatements c (Text.trim uri) ⟨uri, sql, []⟩ statements := by
  obtain ⟨canonical, hcanonical, hparse⟩ := h
  simp only [make, hcanonical, hparse]

/-- A statement that has a plan is read. -/
theorem readsAs_of_make {c : Config} {uri sql : Text} {p : Plan} (h : make c uri sql = .ok p) :
    ∃ statements, ReadsAs c sql statements := by
  unfold make at h
  split at h
  · exact absurd h (by simp)
  · next canonical hcanonical =>
      split at h
      · exact absurd h (by simp)
      · next statements hparse => exact ⟨statements, canonical, hcanonical, hparse⟩

/-- Without anything to move the plan is the input. -/
theorem make_of_rests {c : Config} {uri sql : Text} {statements : List Sql.Statement}
    (h : ReadsAs c sql statements) (hrests : Rests c uri statements) :
    make c uri sql = .ok ⟨uri, sql, []⟩ := by
  rw [make_eq_ofStatements h, ofStatements]
  rcases hrests with hrests | hrests
  · rw [hrests]
    rfl
  · split
    · rfl
    · split
      · rfl
      · next hne heq => exact absurd (congrArg Prod.snd heq ▸ hrests) (by simpa using hne)

/-- With something to move the rest of the statements is written for the new table and read
again. -/
theorem make_of_not_rests {c : Config} {uri sql : Text} {statements : List Sql.Statement}
    (h : ReadsAs c sql statements) (hrests : ¬ Rests c uri statements) :
    make c uri sql =
      let bindings := (Sql.extractAll c.whitelist statements).2
      let target := extend (Text.trim uri) (pairs bindings)
      (Sql.canonicalize c.dialect
        (residualText c.whitelist (Text.trim uri) target statements)).map
          fun sql => ⟨target, sql, bindings⟩ := by
  have htable : readsFrom (Text.trim uri) statements = true := by
    rw [← Bool.not_eq_false]
    exact fun hfalse => hrests (Or.inl hfalse)
  have hne : (Sql.extractAll c.whitelist statements).2 ≠ [] := fun hnil => hrests (Or.inr hnil)
  rw [make_eq_ofStatements h, ofStatements, htable]
  unfold residualText
  revert hne
  generalize Sql.extractAll c.whitelist statements = moved
  intro hne
  obtain ⟨rest, bindings⟩ := moved
  cases bindings with
  | nil => exact absurd rfl hne
  | cons b bindings =>
      simp only [Bool.not_true, Bool.false_eq_true, if_false]
      cases Sql.canonicalize c.dialect _ <;> rfl

/-- With something to move the plan moves it, if the rest can be read again. -/
theorem make_eq_ok_iff_moves {c : Config} {uri sql : Text} {statements : List Sql.Statement}
    {p : Plan} (h : ReadsAs c sql statements) (hrests : ¬ Rests c uri statements) :
    make c uri sql = .ok p ↔ Moves c uri sql statements p := by
  rw [make_of_not_rests h hrests]
  constructor
  · intro hp
    obtain ⟨text, htext, rfl⟩ := Outcome.exists_of_map_eq_ok hp
    refine ⟨h, ?_, rfl, fun hnil => hrests (Or.inr hnil), rfl, htext⟩
    rw [← Bool.not_eq_false]
    exact fun hfalse => hrests (Or.inl hfalse)
  · rintro ⟨-, -, hbindings, -, huri, hsql⟩
    obtain ⟨target, text, bindings⟩ := p
    simp only at hbindings huri hsql
    subst hbindings
    subst huri
    simp only [hsql]
    rfl

theorem Moves.not_rests {c : Config} {uri sql : Text} {statements : List Sql.Statement}
    {p : Plan} (h : Moves c uri sql statements p) : ¬ Rests c uri statements := by
  rintro (hfalse | hnil)
  · rw [h.table] at hfalse
    exact absurd hfalse (by simp)
  · exact h.bindings_ne_nil (h.bindings.trans hnil)

/-- **The two ways a plan is made.** -/
theorem make_eq_ok_iff {c : Config} {uri sql : Text} {p : Plan} :
    make c uri sql = .ok p ↔ ∃ statements, ReadsAs c sql statements ∧
      (Rests c uri statements ∧ p = ⟨uri, sql, []⟩ ∨ Moves c uri sql statements p) := by
  constructor
  · intro h
    obtain ⟨statements, hreads⟩ := readsAs_of_make h
    refine ⟨statements, hreads, ?_⟩
    by_cases hrests : Rests c uri statements
    · rw [make_of_rests hreads hrests] at h
      exact Or.inl ⟨hrests, (Except.ok.inj h).symm⟩
    · exact Or.inr ((make_eq_ok_iff_moves hreads hrests).1 h)
  · rintro ⟨statements, hreads, ⟨hrests, rfl⟩ | hmoves⟩
    · exact make_of_rests hreads hrests
    · exact (make_eq_ok_iff_moves hreads hmoves.not_rests).2 hmoves

theorem Moves.make_eq {c : Config} {uri sql : Text} {statements : List Sql.Statement} {p : Plan}
    (h : Moves c uri sql statements p) : make c uri sql = .ok p :=
  make_eq_ok_iff.2 ⟨statements, h.reads, Or.inr h⟩

/-- A plan with bindings moves them. -/
theorem exists_moves {c : Config} {uri sql : Text} {p : Plan} (h : make c uri sql = .ok p)
    (hne : p.bindings ≠ []) : ∃ statements, Moves c uri sql statements p := by
  obtain ⟨statements, -, ⟨-, rfl⟩ | hmoves⟩ := make_eq_ok_iff.1 h
  · exact absurd rfl hne
  · exact ⟨statements, hmoves⟩

/-! ### Finding a binding -/

/-- What a run on a table leaves of statements, written for the table that it makes, can be read
again. -/
def Resumes (c : Config) (uri : Text) (statements : List Sql.Statement) : Prop :=
  let target := extend (Text.trim uri) (pairs (Sql.extractAll c.whitelist statements).2)
  ∃ text, Sql.canonicalize c.dialect
    (residualText c.whitelist (Text.trim uri) target statements) = .ok text

/-- A run on a table and a statement finds a binding to move. -/
def Finds (c : Config) (uri sql : Text) : Prop := ∃ p, make c uri sql = .ok p ∧ p.bindings ≠ []

/-- A run that finds nothing returns its input. -/
theorem orInput_of_not_finds {c : Config} {uri sql : Text} (h : ¬ Finds c uri sql) :
    orInput c uri sql = (uri, sql) := by
  unfold orInput
  cases hp : make c uri sql with
  | error e => rfl
  | ok p =>
      obtain ⟨statements, -, ⟨-, rfl⟩ | hmoves⟩ := make_eq_ok_iff.1 hp
      · rfl
      · exact absurd ⟨p, hp, hmoves.bindings_ne_nil⟩ h

theorem extractAll_ne_nil_iff {w : Whitelist} {statements : List Sql.Statement} :
    (Sql.extractAll w statements).2 ≠ [] ↔
      ∃ leaf ∈ statements.flatMap Sql.Statement.visited, ∃ b, Sql.IsBinding w leaf b := by
  rw [Sql.extractAll_bindings]
  constructor
  · intro h
    obtain ⟨b, hb⟩ := List.exists_mem_of_ne_nil _ h
    obtain ⟨leaf, hleaf, hbinding⟩ := List.mem_filterMap.1 hb
    exact ⟨leaf, hleaf, b, Sql.Expr.binding?_eq_some_iff.1 hbinding⟩
  · rintro ⟨leaf, hleaf, b, hb⟩
    exact List.ne_nil_of_mem
      (List.mem_filterMap.2 ⟨leaf, hleaf, Sql.Expr.binding?_eq_some_iff.2 hb⟩)

/-- There is a binding to move exactly if the statements read from the table, visit a binding, and
what is left of them can be read again. -/
theorem finds_iff {c : Config} {uri sql : Text} :
    Finds c uri sql ↔ ∃ statements, ReadsAs c sql statements ∧
      readsFrom (Text.trim uri) statements = true ∧
      (∃ leaf ∈ statements.flatMap Sql.Statement.visited, ∃ b, Sql.IsBinding c.whitelist leaf b) ∧
      Resumes c uri statements := by
  constructor
  · rintro ⟨p, hp, hne⟩
    obtain ⟨statements, hmoves⟩ := exists_moves hp hne
    refine ⟨statements, hmoves.reads, hmoves.table, ?_, p.sql, ?_⟩
    · exact extractAll_ne_nil_iff.1 (hmoves.bindings ▸ hne)
    · simp only [← hmoves.bindings, ← hmoves.uri_eq]
      exact hmoves.sql_eq
  · rintro ⟨statements, hreads, htable, hleaf, text, htext⟩
    have hne := extractAll_ne_nil_iff.2 hleaf
    have hmoves : Moves c uri sql statements ⟨_, text, _⟩ :=
      ⟨hreads, htable, rfl, hne, rfl, htext⟩
    exact ⟨_, hmoves.make_eq, hne⟩

end Plan

end Pushdown
