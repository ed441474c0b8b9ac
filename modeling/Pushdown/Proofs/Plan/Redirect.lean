/-
**From residual statements to the statement of a plan.**

What is left of statements without their bindings is written down, cleaned up and pointed at the new
table, by writing the new name in quotes over the old one.  In the tree this is a change of tables
and of nothing else, provided that the cleanup finds nothing to do and the old name stands in these
quotes for tables only: a column, a second name or the content of a string literal that is written
in the same way is written over as well.

Main definitions:

* `Plan.Quotable` — a name all of whose quotes are doubled when it is written in quotes;
* `Plan.planned` — the statements without their bindings that read from the new table;
* `Plan.Confined` — a name in quotes is written for tables only;
* `Plan.Faithful` — the statement of a plan is read as planned.

Main results:

* `Plan.Moves.exists_addition` — what a plan writes into the name of its table;
* `Plan.sanitize_renderAll` — **when the cleanup leaves statements**;
* `Plan.redirectQuoted_renderAll_iff` — when writing over the text changes the tables of the tree;
* `Plan.faithful_iff` — **when a plan changes the tables and nothing else**.
-/

import Mathlib.Data.List.Chain
import Pushdown.Proofs.Binding.Frame
import Pushdown.Proofs.Cleanup.Tidy
import Pushdown.Proofs.Plan.Threading
import Pushdown.Proofs.Sql.Equality

set_option autoImplicit false

namespace Pushdown

namespace Plan

open Sql (Ident Statement)
open Text (Diverges Gapped)

/-! ### Names in quotes -/

/-- The two quotes in which the name of a table is looked for. -/
def IsTableQuote (quote : Char) : Prop := quote = '"' ∨ quote = '\x60'

/-- A table by its name in quotes. -/
def inQuotes (quote : Char) (name : Text) : List Ident := [⟨name, some quote⟩]

/-- No quote of a name stands behind another one or behind a backslash. -/
def Quotable (quote : Char) (name : Text) : Prop :=
  name.IsChain fun a b => b = quote → a ≠ quote ∧ a ≠ '\\'

instance (quote : Char) (name : Text) : Decidable (Quotable quote name) :=
  inferInstanceAs (Decidable (List.IsChain _ _))

theorem quotable_of_not_mem {quote : Char} {name : Text} (h : quote ∉ name) :
    Quotable quote name := by
  unfold Quotable
  induction name with
  | nil => exact List.IsChain.nil
  | cons c rest ih =>
      cases rest with
      | nil => exact List.IsChain.singleton c
      | cons d rest =>
          rw [List.mem_cons, not_or] at h
          refine List.isChain_cons_cons.2 ⟨?_, ih h.2⟩
          rintro rfl
          exact absurd List.mem_cons_self h.2

/-- Text without quotes and backslashes can be written into a name. -/
theorem Quotable.insert {quote : Char} {front added tail : Text}
    (h : Quotable quote (front ++ tail)) (hadded : ∀ c ∈ added, c ≠ quote ∧ c ≠ '\\') :
    Quotable quote (front ++ added ++ tail) := by
  cases added with
  | nil => rwa [List.append_nil]
  | cons a more =>
      obtain ⟨hfront, htail, -⟩ := List.isChain_append.1 h
      have hmiddle : Quotable quote (a :: more) :=
        quotable_of_not_mem fun hm => (hadded quote hm).1 rfl
      refine List.isChain_append.2 ⟨List.isChain_append.2 ⟨hfront, hmiddle, ?_⟩, htail, ?_⟩
      · rintro x - y hy hquote
        rw [List.head?_cons, Option.mem_some_iff] at hy
        exact absurd (hy.trans hquote) (hadded a List.mem_cons_self).1
      · rintro x hx y - -
        rw [List.getLast?_append_of_ne_nil _ (List.cons_ne_nil a more)] at hx
        exact hadded x (List.mem_of_getLast? hx)

theorem doubleQuotesFrom_eq {quote : Char} (hquote : quote ≠ '\\') {name : Text}
    (h : Quotable quote name) {escaped : Bool}
    (hescaped : escaped = true → name.head? ≠ some quote) :
    Sql.doubleQuotesFrom quote escaped name = Text.replaceChar quote [quote, quote] name := by
  induction name generalizing escaped with
  | nil => rfl
  | cons c rest ih =>
      have hplain : c = quote → escaped = false := by
        rintro rfl
        exact Bool.eq_false_iff.2 fun hesc => hescaped hesc rfl
      have hreplace : Text.replaceChar quote [quote, quote] (c :: rest) =
          (if c = quote then [quote, quote] else [c]) ++
            Text.replaceChar quote [quote, quote] rest := rfl
      rw [hreplace]
      cases rest with
      | nil =>
          by_cases hc : c = quote
          · simp [Sql.doubleQuotesFrom, Text.replaceChar, hc, hplain hc]
          · simp [Sql.doubleQuotesFrom, Text.replaceChar, hc]
      | cons d rest =>
          obtain ⟨hpair, hrest⟩ := List.isChain_cons_cons.1 h
          have hnext : decide (c = '\\') = true → (d :: rest).head? ≠ some quote := by
            rw [decide_eq_true_eq, List.head?_cons]
            rintro hc hd
            exact (hpair (Option.some.inj hd)).2 hc
          rw [← ih hrest hnext, Sql.doubleQuotesFrom]
          by_cases hc : c = quote
          · have hd : d ≠ quote := fun hd => (hpair hd).1 hc
            simp [hc, hplain hc, hd]
          · simp [hc]

theorem IsTableQuote.ne_backslash {quote : Char} (h : IsTableQuote quote) : quote ≠ '\\' := by
  rcases h with rfl | rfl <;> decide

/-- How a table in quotes is written. -/
theorem renderName_inQuotes {quote : Char} (hquote : IsTableQuote quote) {name : Text}
    (h : Quotable quote name) : Sql.renderName (inQuotes quote name) = quoted quote name := by
  have hbracket : quote ≠ '[' := by rcases hquote with rfl | rfl <;> decide
  have hdouble : Sql.doubleQuotes quote name = Text.replaceChar quote [quote, quote] name :=
    doubleQuotesFrom_eq hquote.ne_backslash h (by simp)
  simp only [Sql.renderName, inQuotes, List.map_cons, List.map_nil, Text.joinWith,
    Ident.render, if_neg hbracket, hdouble, quoted]

/-! ### What a plan writes into a name -/

/-- What a row of pairs adds is made of query characters and question marks. -/
theorem char_of_mem_addition {front : Text} {bindings : List Binding} {c : Char}
    (h : c ∈ addition front (pairs bindings)) : c = '?' ∨ Table.isQueryChar c = true := by
  unfold addition at h
  split at h
  · exact absurd h List.not_mem_nil
  · rcases List.mem_append.1 h with hm | hm
    · unfold Table.pairSeparator at hm
      split at hm
      · exact Or.inl (List.mem_singleton.1 hm)
      · split at hm
        · exact absurd hm List.not_mem_nil
        · exact absurd hm List.not_mem_nil
        · rw [List.mem_singleton.1 hm]
          exact Or.inr (by decide)
    · rcases Text.mem_joinWith hm with hm | ⟨pair, hpair, hm⟩
      · rw [List.mem_singleton.1 hm]
        exact Or.inr (by decide)
      · obtain ⟨b, -, v, -, rfl⟩ := mem_pairs.1 hpair
        exact Or.inr (b.target.isQueryChar_pair v c hm)

theorem ne_of_isQueryChar {c : Char} (h : c = '?' ∨ Table.isQueryChar c = true) :
    c ≠ '"' ∧ c ≠ '\x60' ∧ c ≠ '\\' ∧ c ≠ '#' := by
  refine ⟨?_, ?_, ?_, ?_⟩
  all_goals
    rintro rfl
    exact absurd h (by decide)

section

variable {c : Config} {uri sql : Text} {statements : List Statement} {p : Plan}
  (h : Moves c uri sql statements p)

include h

/-- What a plan writes into the name of its table: text in front of the fragment that needs no
quotes. -/
theorem Moves.exists_addition : ∃ front added tail,
    Text.trim uri = front ++ tail ∧ p.uri = front ++ added ++ tail ∧ Url.IsTail tail ∧
      ∀ a ∈ added, a ≠ '"' ∧ a ≠ '\x60' ∧ a ≠ '\\' ∧ a ≠ '#' := by
  obtain ⟨front, tail, huri, hfront, htail⟩ := Table.exists_front_tail (Text.trim uri)
  refine ⟨front, addition front (pairs p.bindings), tail, huri, ?_, htail,
    fun a ha => ne_of_isQueryChar (char_of_mem_addition ha)⟩
  rw [h.uri_eq, huri, extend_append hfront htail isPair_of_mem_pairs]

theorem Moves.quotable {quote : Char} (hquote : IsTableQuote quote)
    (hname : Quotable quote (Text.trim uri)) : Quotable quote p.uri := by
  obtain ⟨front, added, tail, huri, hp, -, hadded⟩ := h.exists_addition
  rw [hp]
  rw [huri] at hname
  refine hname.insert fun a ha => ?_
  obtain ⟨hdouble, hback, hslash, -⟩ := hadded a ha
  rcases hquote with rfl | rfl
  · exact ⟨hdouble, hslash⟩
  · exact ⟨hback, hslash⟩

/-- The old and the new name part at the place where the pairs are added. -/
theorem Moves.diverges (hne : p.uri ≠ Text.trim uri) {quote : Char} (hquote : IsTableQuote quote) :
    Diverges (quoted quote (Text.trim uri)) (quoted quote p.uri) := by
  obtain ⟨front, added, tail, huri, hp, htail, hadded⟩ := h.exists_addition
  obtain ⟨a, more, rfl⟩ : ∃ a more, added = a :: more := by
    refine List.exists_cons_of_ne_nil ?_
    rintro rfl
    exact hne (by rw [hp, huri, List.append_nil])
  obtain ⟨hdouble, hback, -, hhash⟩ := hadded a List.mem_cons_self
  have ha : a ≠ quote := by rcases hquote with rfl | rfl <;> assumption
  have hcons (x : Char) (hx : x ≠ quote) (s : Text) :
      Text.replaceChar quote [quote, quote] (x :: s) =
        x :: Text.replaceChar quote [quote, quote] s := by
    simp [Text.replaceChar, hx]
  rw [huri, hp, quoted, quoted, Text.replaceChar_append, Text.replaceChar_append,
    Text.replaceChar_append, hcons a ha]
  rcases htail with rfl | ⟨fragment, rfl⟩
  · exact ⟨quote :: Text.replaceChar quote [quote, quote] front, quote, a, [],
      Text.replaceChar quote [quote, quote] more ++ [quote],
      by simp [Text.replaceChar], by simp [Text.replaceChar], Ne.symm ha⟩
  · have hquoteHash : '#' ≠ quote := by rcases hquote with rfl | rfl <;> decide
    rw [hcons '#' hquoteHash]
    exact ⟨quote :: Text.replaceChar quote [quote, quote] front, '#', a,
      Text.replaceChar quote [quote, quote] fragment ++ [quote],
      Text.replaceChar quote [quote, quote] more ++
        '#' :: Text.replaceChar quote [quote, quote] fragment ++ [quote],
      by simp, by simp, Ne.symm hhash⟩

end

/-! ### Statements that the cleanup leaves -/

/-- **The cleanup leaves statements exactly if their text is tidy**, and any other text loses
something.  What is left of tidy statements without their bindings goes to the new table as it is
written. -/
theorem sanitize_renderAll (statements : List Statement) :
    (Cleanup.sanitize (Sql.renderAll statements) = Sql.renderAll statements ↔
        Cleanup.Tidy (Sql.renderAll statements)) ∧
      (¬ Cleanup.Tidy (Sql.renderAll statements) →
        (Cleanup.sanitize (Sql.renderAll statements)).length <
          (Sql.renderAll statements).length) ∧
      ∀ w source target, Cleanup.Tidy (Sql.renderAll (Sql.extractAll w statements).1) →
        residualText w source target statements =
          redirect source target (Sql.renderAll (Sql.extractAll w statements).1) := by
  refine ⟨Cleanup.sanitize_eq_self_iff, Cleanup.length_sanitize_lt, fun w source target h => ?_⟩
  rw [residualText, Cleanup.sanitize_eq_self_iff.2 h]

set_option maxRecDepth 100000 in
/-- An `AND` in a string between dollars dangles in front of a parenthesis. -/
theorem sanitize_dollarString :
    let sql := "SELECT $$a AND )$$".toList
    ∃ statements, Sql.parse .postgresql sql = .ok statements ∧ statements ≠ [] ∧
      Sql.renderAll statements = sql ∧
      Cleanup.sanitize (Sql.renderAll statements) = "SELECT $$a )$$".toList ∧
      Cleanup.sanitize (Sql.renderAll statements) ≠ Sql.renderAll statements := by
  intro sql
  let select : Sql.Select := .mk false sql [] [] none []
  exact ⟨[.query (.mk false [] (.select select) [])], by decide +kernel, by decide,
    by decide +kernel, by decide +kernel, by decide +kernel⟩

/-! ### Statements that read from another table -/

/-- A statement that reads from another table wherever the name stands in the given quotes. -/
def retargetQuoted (quote : Char) (source target : Text) : Statement → Statement :=
  Statement.mapTables (Sql.renameTable (inQuotes quote source) (inQuotes quote target))

/-- A statement that reads from another table wherever the name stands in double quotes or in
backquotes. -/
def retarget (source target : Text) (s : Statement) : Statement :=
  retargetQuoted '\x60' source target (retargetQuoted '"' source target s)

/-- The statements without their bindings that read from the new table. -/
def planned (w : Whitelist) (source target : Text) (statements : List Statement) :
    List Statement :=
  (Sql.extractAll w statements).1.map (retarget source target)

/-- The bindings of a statement with changed tables. -/
theorem extract_bindings_retarget (w : Whitelist) (source target : Text) (s : Statement) :
    ((retarget source target s).extract w).2 = [] ↔ (s.extract w).2 = [] := by
  rw [retarget, retargetQuoted, retargetQuoted, Statement.extract_bindings_mapTables,
    Statement.extract_bindings_mapTables]

/-- Under the same name nothing changes. -/
theorem planned_self (w : Whitelist) (name : Text) (statements : List Statement) :
    planned w name name statements = (Sql.extractAll w statements).1 := by
  have hsame (s : Statement) : retarget name name s = s := by
    simp only [retarget, retargetQuoted, Sql.renameTable_self, Statement.mapTables_id]
  exact List.map_id'' hsame _

/-- The statement of a plan is read as planned. -/
def Faithful (c : Config) (uri : Text) (statements : List Statement) (p : Plan) : Prop :=
  Sql.parse c.dialect p.sql =
    .ok (planned c.whitelist (Text.trim uri) p.uri statements)

/-- In the text of statements the name in quotes is written for tables only. -/
def Confined (quote : Char) (name : Text) (statements : List Statement) : Prop :=
  Text.cut (quoted quote name) (Sql.renderAll statements) =
    Sql.aroundAll (inQuotes quote name) statements

instance (quote : Char) (name : Text) (statements : List Statement) :
    Decidable (Confined quote name statements) :=
  inferInstanceAs (Decidable (_ = _))

theorem quoted_ne_nil (quote : Char) (name : Text) : quoted quote name ≠ [] :=
  List.cons_ne_nil _ _

section

variable {quote : Char} (hquote : IsTableQuote quote) {source : Text}
  (hsource : Quotable quote source)

include hquote hsource

/-- The text of statements around the tables by a name in quotes. -/
theorem fill_aroundAll_quoted (statements : List Statement) :
    (Sql.aroundAll (inQuotes quote source) statements).fill (quoted quote source) =
      Sql.renderAll statements := by
  have hname := renderName_inQuotes hquote hsource
  rw [← hname]
  exact Sql.fill_aroundAll (hname ▸ quoted_ne_nil quote source) statements

/-- Writing over the text changes the tables of the tree and nothing else exactly if the name in
quotes is written for tables only. -/
theorem redirectQuoted_renderAll_iff {target : Text} (htarget : Quotable quote target)
    (hdiverges : Diverges (quoted quote source) (quoted quote target))
    (statements : List Statement) :
    redirectQuoted quote source target (Sql.renderAll statements) =
        Sql.renderAll (statements.map (retargetQuoted quote source target)) ↔
      Confined quote source statements := by
  have hnew : Sql.renderAll (statements.map (retargetQuoted quote source target)) =
      (Sql.aroundAll (inQuotes quote source) statements).fill (quoted quote target) :=
    Sql.renderAll_renameTable (quoted_ne_nil quote target) (renderName_inQuotes hquote htarget)
      statements
  rw [Confined, hnew, ← fill_aroundAll_quoted hquote hsource statements]
  exact Text.replaceAll_eq_fill_iff hdiverges _

/-- A name is written for tables only if no other quotes of its kind are written. -/
theorem confined_of_not_mem {statements : List Statement}
    (h : ∀ s ∈ (Sql.aroundAll (inQuotes quote source) statements).pieces, quote ∉ s) :
    Confined quote source statements := by
  rw [Confined, ← fill_aroundAll_quoted hquote hsource statements]
  exact Text.cut_fill_of_not_mem h

end

/-! ### What the text of a plan is read as -/

/-- A text is written as the statements that it is read as are. -/
structure Canonical (d : DialectName) (sql : Text) (statements : List Statement) : Prop where
  parse : Sql.parse d sql = .ok statements
  ne_nil : statements ≠ []
  render : Sql.renderAll statements = sql

theorem Canonical.canonicalize {d : DialectName} {sql : Text} {statements : List Statement}
    (h : Canonical d sql statements) : Sql.canonicalize d sql = .ok sql := by
  rw [Sql.canonicalize, h.parse]
  cases statements with
  | nil => exact absurd rfl h.ne_nil
  | cons s rest => exact congrArg Except.ok h.render

theorem Canonical.readsAs {c : Config} {sql : Text} {statements : List Statement}
    (h : Canonical c.dialect sql statements) : ReadsAs c sql statements :=
  ⟨sql, h.canonicalize, h.parse⟩

/-- A canonical text is read in one way. -/
theorem Canonical.eq_of_readsAs {c : Config} {sql : Text} {statements again : List Statement}
    (h : Canonical c.dialect sql statements) (hagain : ReadsAs c sql again) :
    again = statements := by
  obtain ⟨canonical, hcanonical, hparse⟩ := hagain
  rw [h.canonicalize, Except.ok.injEq] at hcanonical
  rw [← hcanonical, h.parse, Except.ok.injEq] at hparse
  exact hparse.symm

/-- What a text is rewritten to is canonical, if the statements of the text can be read back. -/
theorem Canonical.of_canonicalize {d : DialectName} {sql text : Text} {statements : List Statement}
    (h : Sql.canonicalize d sql = .ok text) (hparse : Sql.parse d sql = .ok statements)
    (hrender : Sql.renderAll statements = sql) : Canonical d text statements := by
  unfold Sql.canonicalize at h
  rw [hparse] at h
  cases statements with
  | nil => exact absurd h (by simp)
  | cons s rest =>
      obtain rfl : Sql.renderAll (s :: rest) = text := Except.ok.inj h
      exact ⟨hrender ▸ hparse, List.cons_ne_nil s rest, rfl⟩

/-- A plan between two canonical texts. -/
theorem Canonical.moves {c : Config} {uri sql : Text} {statements rest : List Statement} {p : Plan}
    (h : Canonical c.dialect sql statements) (hrest : Canonical c.dialect p.sql rest)
    (htable : readsFrom (Text.trim uri) statements = true)
    (hbindings : p.bindings = (Sql.extractAll c.whitelist statements).2)
    (hne : p.bindings ≠ []) (huri : p.uri = extend (Text.trim uri) (pairs p.bindings))
    (htext : residualText c.whitelist (Text.trim uri) p.uri statements = p.sql) :
    Moves c uri sql statements p :=
  ⟨h.readsAs, htable, hbindings, hne, huri, by rw [htext]; exact hrest.canonicalize⟩

/-- A statement that reads one table. -/
def reading (head : Text) (table : List Ident) (condition : Option Sql.Expr) : Statement :=
  .query (.mk false []
    (.select (.mk false head [.mk (.table table [] none []) []] [] condition [])) [])

/-- The condition that the parameter `x` is 1. -/
def oneCondition : Sql.Expr :=
  .binary .eq (.ident ⟨"QUERY_PARAMx".toList, some '"'⟩) (.literal (.plain "1".toList))

section

variable {c : Config} {uri sql : Text} {statements : List Statement} {p : Plan}

/-- When a pass of a plan changes the tables of the tree and nothing else. -/
theorem Moves.redirectQuoted_iff (h : Moves c uri sql statements p) (hne : p.uri ≠ Text.trim uri)
    {quote : Char} (hquote : IsTableQuote quote) (hname : Quotable quote (Text.trim uri))
    (trees : List Statement) :
    redirectQuoted quote (Text.trim uri) p.uri (Sql.renderAll trees) =
        Sql.renderAll (trees.map (retargetQuoted quote (Text.trim uri) p.uri)) ↔
      Confined quote (Text.trim uri) trees :=
  redirectQuoted_renderAll_iff hquote hname (h.quotable hquote hname) (h.diverges hne hquote) trees

/-- Tidy statements in which the old name is written for tables only are written as planned. -/
theorem residualText_eq_renderAll_planned (h : Moves c uri sql statements p)
    (hne : p.uri ≠ Text.trim uri)
    (hname : ∀ quote, IsTableQuote quote → Quotable quote (Text.trim uri)) :
    let source := Text.trim uri
    let rest := (Sql.extractAll c.whitelist statements).1
    Cleanup.Tidy (Sql.renderAll rest) → Confined '"' source rest →
      Confined '\x60' source (rest.map (retargetQuoted '"' source p.uri)) →
      residualText c.whitelist source p.uri statements =
        Sql.renderAll (planned c.whitelist source p.uri statements) := by
  intro source rest htidy hdouble hback
  have hfirst := (h.redirectQuoted_iff hne (Or.inl rfl) (hname '"' (Or.inl rfl)) rest).2 hdouble
  have hsecond := (h.redirectQuoted_iff hne (Or.inr rfl) (hname '\x60' (Or.inr rfl)) _).2 hback
  rw [residualText, Cleanup.sanitize_eq_self_iff.2 htidy, redirect, if_neg (Ne.symm hne), hfirst,
    hsecond, List.map_map]
  rfl

/-- **Redirecting changes tables and nothing else** as long as the name of the old table is written
in quotes for tables only.  Of each of the two passes this is the exact condition, on statements of
any kind; it holds if no other quotes of the kind are written.  A plan whose statements are tidy and
meet it is read as planned exactly if what was planned is read back from its own text. -/
theorem faithful_iff (h : Moves c uri sql statements p) (hne : p.uri ≠ Text.trim uri)
    (hname : ∀ quote, IsTableQuote quote → Quotable quote (Text.trim uri)) :
    let source := Text.trim uri
    let rest := (Sql.extractAll c.whitelist statements).1
    let target := planned c.whitelist source p.uri statements
    (∀ quote, IsTableQuote quote → ∀ trees : List Statement,
      (redirectQuoted quote source p.uri (Sql.renderAll trees) =
          Sql.renderAll (trees.map (retargetQuoted quote source p.uri)) ↔
        Confined quote source trees) ∧
      ((∀ s ∈ (Sql.aroundAll (inQuotes quote source) trees).pieces, quote ∉ s) →
        Confined quote source trees)) ∧
    (Cleanup.Tidy (Sql.renderAll rest) → Confined '"' source rest →
      Confined '\x60' source (rest.map (retargetQuoted '"' source p.uri)) →
      (Faithful c uri statements p ↔ ReadsAs c (Sql.renderAll target) target)) := by
  intro source rest target
  refine ⟨fun quote hquote trees => ⟨?_, ?_⟩, fun htidy hdouble hback => ?_⟩
  · exact h.redirectQuoted_iff hne hquote (hname quote hquote) trees
  · exact confined_of_not_mem hquote (hname quote hquote)
  · have hsql := h.sql_eq
    rw [residualText_eq_renderAll_planned h hne hname htidy hdouble hback] at hsql
    constructor
    · exact fun hparse => ⟨p.sql, hsql, hparse⟩
    · rintro ⟨canonical, hcanonical, hparse⟩
      rw [hsql, Except.ok.injEq] at hcanonical
      rwa [Faithful, hcanonical]

end

/-- Two statements that read from two tables. -/
def pairStatements (first second : Text) (one two : Option Sql.Expr) : List Statement :=
  [reading "SELECT *".toList (inQuotes '"' first) one,
    reading "SELECT *".toList (inQuotes '"' second) two]

/-- The plan of two statements, one of which reads from another table. -/
def pairPlan : Plan where
  uri := "/a?x=1".toList
  sql := "SELECT * FROM \"/a?x=1\"; SELECT * FROM \"/b\"".toList
  bindings := [⟨.param "x".toList, ["1".toList]⟩]

set_option maxRecDepth 100000 in
theorem canonical_pairPlan : Canonical .postgresql pairPlan.sql
    (pairStatements "/a?x=1".toList "/b".toList none none) :=
  ⟨by decide +kernel, by decide, by decide +kernel⟩

/-- The statements of that plan as they are given. -/
def pairSql : Text :=
  "SELECT * FROM \"/a\" WHERE \"QUERY_PARAMx\" = 1; SELECT * FROM \"/b\"".toList

set_option maxRecDepth 100000 in
theorem moves_pairPlan : Moves Config.default "/a".toList pairSql
    (pairStatements "/a".toList "/b".toList (some oneCondition) none) pairPlan := by
  have hsql : Canonical .postgresql pairSql
      (pairStatements "/a".toList "/b".toList (some oneCondition) none) :=
    ⟨by decide +kernel, by decide, by decide +kernel⟩
  exact hsql.moves canonical_pairPlan (by decide +kernel) (by decide +kernel) (by decide)
    (by decide +kernel) (by decide +kernel)

theorem uri_pairPlan_ne : pairPlan.uri ≠ Text.trim "/a".toList := by decide

set_option maxRecDepth 100000 in
theorem faithful_iff_pairPlan :
    let statements := pairStatements "/a".toList "/b".toList (some oneCondition) none
    let target := planned Whitelist.empty (Text.trim "/a".toList) pairPlan.uri statements
    pairPlan.uri ≠ Text.trim "/a".toList ∧
      (∀ quote, IsTableQuote quote → Quotable quote (Text.trim "/a".toList)) ∧
      (Faithful Config.default "/a".toList statements pairPlan ↔
        ReadsAs Config.default (Sql.renderAll target) target) := by
  intro statements target
  have hname : ∀ quote, IsTableQuote quote → Quotable quote (Text.trim "/a".toList) := by
    rintro quote (rfl | rfl) <;> decide
  have htidy : Cleanup.Tidy
      (Sql.renderAll (Sql.extractAll Config.default.whitelist statements).1) :=
    Cleanup.sanitize_eq_self_iff.1 (by decide +kernel)
  exact ⟨uri_pairPlan_ne, hname, (faithful_iff moves_pairPlan uri_pairPlan_ne hname).2 htidy
    (by decide +kernel) (by decide +kernel)⟩

/-- The plan of a statement with a literal that is spelled like the table in quotes. -/
def literalPlan : Plan where
  uri := "/a?x=1".toList
  sql := "SELECT '\"/a?x=1\"' FROM \"/a?x=1\"".toList
  bindings := [⟨.param "x".toList, ["1".toList]⟩]

set_option maxRecDepth 100000 in
/-- A literal that is spelled like the table in quotes is written over. -/
theorem not_faithful_literalPlan :
    let sql := "SELECT '\"/a\"' FROM \"/a\" WHERE \"QUERY_PARAMx\" = 1".toList
    let statements :=
      [reading "SELECT '\"/a\"'".toList (inQuotes '"' "/a".toList) (some oneCondition)]
    Moves Config.default "/a".toList sql statements literalPlan ∧
      make Config.default "/a".toList sql = .ok literalPlan ∧
      Sql.parse .postgresql literalPlan.sql =
        .ok [reading "SELECT '\"/a?x=1\"'".toList (inQuotes '"' "/a?x=1".toList) none] ∧
      ¬ Faithful Config.default "/a".toList statements literalPlan := by
  intro sql statements
  have hsql : Canonical .postgresql sql statements :=
    ⟨by decide +kernel, by decide, by decide +kernel⟩
  have hcanonical : Canonical .postgresql literalPlan.sql
      [reading "SELECT '\"/a?x=1\"'".toList (inQuotes '"' "/a?x=1".toList) none] :=
    ⟨by decide +kernel, by decide, by decide +kernel⟩
  have hmoves : Moves Config.default "/a".toList sql statements literalPlan :=
    hsql.moves hcanonical (by decide +kernel) (by decide +kernel) (by decide) (by decide +kernel)
      (by decide +kernel)
  refine ⟨hmoves, hmoves.make_eq, hcanonical.parse, ?_⟩
  have hplanned : planned Config.default.whitelist (Text.trim "/a".toList) literalPlan.uri
      statements =
      [reading "SELECT '\"/a\"'".toList (inQuotes '"' "/a?x=1".toList) none] := by decide +kernel
  have hparse : Sql.parse Config.default.dialect literalPlan.sql = _ := hcanonical.parse
  rw [Faithful, hplanned, hparse]
  decide +kernel

end Plan

end Pushdown
