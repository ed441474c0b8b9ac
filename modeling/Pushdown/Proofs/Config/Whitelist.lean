/-
**What a valid whitelist is good for.**

An entry of a whitelist is honoured if its short name, as a column, stands for the target of the
entry, and if a value for that target arrives as such and as nothing else.  Validation keeps the two
meanings of a short name apart and makes every header legible.  It looks neither at the tags that
come before the whitelist, nor at the quotes that a column loses, nor at the parameter names that
the reader of tables keeps for itself.

Main definitions:

* `Whitelist.Gives` — the whitelist gives a short name a target;
* `Whitelist.Valid` — the names of a whitelist are not blank, no header has a colon, and no short
  name has two targets;
* `Target.Tagged`, `Target.Tags` — a column starts with a tag, and names a target by it;
* `Target.sole` — the table that has one value for a target and nothing else.

Main results:

* `Whitelist.validate_eq_ok_iff` — validation accepts the valid whitelists;
* `Target.resolve?_eq_some_iff` — the target of a column, by its tag or by a valid whitelist;
* `Target.decode_pair_iff` — a value arrives alone exactly if it fits its target;
* `Config.honours_iff` — **which entries of a valid configuration are honoured**.
-/

import Pushdown.Proofs.Plan.Incremental

set_option autoImplicit false

namespace Pushdown

/-! ### Valid whitelists -/

namespace Whitelist

/-- The whitelist gives a short name a target. -/
def Gives (w : Whitelist) (short : Text) : Target → Prop
  | .param name => w.params.get? short = some name
  | .header name => w.headers.get? short = some name

instance (w : Whitelist) (short : Text) : (target : Target) → Decidable (w.Gives short target)
  | .param _ => inferInstanceAs (Decidable (_ = _))
  | .header _ => inferInstanceAs (Decidable (_ = _))

/-- The names of a whitelist are not blank, no header has a colon, and no short name has two
targets. -/
structure Valid (w : Whitelist) : Prop where
  not_blank : ∀ {short : Text} {target : Target}, w.Gives short target →
    Text.isBlankText short = false ∧ Text.isBlankText target.name = false
  colon_free : ∀ {short name : Text}, w.Gives short (.header name) → ':' ∉ name
  unique : ∀ {short : Text} {a b : Target}, w.Gives short a → w.Gives short b → a = b

theorem find?_hasEmptyName_eq_none_iff {w : Whitelist} :
    (w.headers.entries ++ w.params.entries).find? hasEmptyName = none ↔
      ∀ short target, w.Gives short target →
        Text.isBlankText short = false ∧ Text.isBlankText target.name = false := by
  simp only [List.find?_eq_none, List.mem_append, Prod.forall, hasEmptyName, Bool.or_eq_true,
    not_or, Bool.not_eq_true]
  constructor
  · intro h short target hgives
    cases target with
    | param name => exact h short name (Or.inr (Dictionary.get?_eq_some_iff.1 hgives))
    | header name => exact h short name (Or.inl (Dictionary.get?_eq_some_iff.1 hgives))
  · rintro h short name (hmem | hmem)
    · exact h short (.header name) (Dictionary.get?_eq_some_iff.2 hmem)
    · exact h short (.param name) (Dictionary.get?_eq_some_iff.2 hmem)

theorem find?_colon_eq_none_iff {w : Whitelist} :
    (w.headers.entries.find? fun e => e.2.contains ':') = none ↔
      ∀ short name, w.Gives short (.header name) → ':' ∉ name := by
  simp only [List.find?_eq_none, Prod.forall, List.contains_iff_mem, Gives,
    Dictionary.get?_eq_some_iff]

theorem find?_ambiguous_eq_none_iff {w : Whitelist} :
    (w.headers.keys.find? fun short => (w.params.get? short).isSome) = none ↔
      ∀ short a b, w.Gives short a → w.Gives short b → a = b := by
  simp only [List.find?_eq_none, Dictionary.mem_keys_iff, Option.isSome_iff_exists, not_exists]
  constructor
  · intro h short a b ha hb
    cases a <;> cases b
    · exact congrArg Target.param (Option.some.inj (ha.symm.trans hb))
    · exact absurd ha (h short ⟨_, hb⟩ _)
    · exact absurd hb (h short ⟨_, ha⟩ _)
    · exact congrArg Target.header (Option.some.inj (ha.symm.trans hb))
  · rintro h short ⟨header, hheader⟩ param hparam
    exact absurd (h short (.header header) (.param param) hheader hparam) (by simp)

/-- Validation accepts the valid whitelists. -/
theorem validate_eq_ok_iff {w : Whitelist} : w.validate = .ok () ↔ w.Valid := by
  have hsplit : w.validate = .ok () ↔
      (w.headers.entries ++ w.params.entries).find? hasEmptyName = none ∧
        (w.headers.entries.find? fun e => e.2.contains ':') = none ∧
        (w.headers.keys.find? fun short => (w.params.get? short).isSome) = none := by
    unfold validate
    split
    · next hfound => simp only [hfound, reduceCtorEq, false_and]
    · next hnamed =>
        split
        · next hfound => simp only [hfound, reduceCtorEq, false_and, and_false]
        · next hcolon =>
            split
            · next hfound => simp only [hfound, reduceCtorEq, and_false]
            · next hambiguous => simp only [hnamed, hcolon, hambiguous, true_and]
  rw [hsplit, find?_hasEmptyName_eq_none_iff, find?_colon_eq_none_iff,
    find?_ambiguous_eq_none_iff]
  constructor
  · rintro ⟨hnamed, hcolon, hambiguous⟩
    exact ⟨hnamed _ _, hcolon _ _, hambiguous _ _ _⟩
  · intro h
    exact ⟨fun _ _ => h.not_blank, fun _ _ => h.colon_free, fun _ _ _ => h.unique⟩

end Whitelist

/-- The whitelist of a configuration that is accepted is valid. -/
theorem Config.whitelist_valid {c : Config} (h : c.validate = .ok ()) : c.whitelist.Valid := by
  unfold Config.validate at h
  split at h
  · exact absurd h (by simp)
  · next hwhitelist => exact Whitelist.validate_eq_ok_iff.1 hwhitelist

/-! ### Columns and their targets -/

namespace Target

/-- The tag of columns of a kind. -/
def tag : Target → Text
  | param _ => paramTag
  | header _ => headerTag

/-- A column starts with a tag, so the whitelist is not asked for it. -/
def Tagged (column : Text) : Prop := paramTag <+: column ∨ headerTag <+: column

instance (column : Text) : Decidable (Tagged column) := inferInstanceAs (Decidable (_ ∨ _))

/-- A column names a target by its tag. -/
def Tags (column : Text) (target : Target) : Prop :=
  ∃ rest, target.tag ++ rest = column ∧ Text.trimChar '"' rest = target.name ∧ target.name ≠ []

theorem Tags.tagged {column : Text} {target : Target} (h : Tags column target) :
    Tagged column := by
  obtain ⟨rest, hcolumn, -⟩ := h
  cases target with
  | param name => exact Or.inl ⟨rest, hcolumn⟩
  | header name => exact Or.inr ⟨rest, hcolumn⟩

theorem taggedName?_eq_some_iff {rest name : Text} :
    taggedName? rest = some name ↔ Text.trimChar '"' rest = name ∧ name ≠ [] := by
  unfold taggedName?
  split
  · next hnil => simp [hnil, eq_comm]
  · next hne =>
      simp only [Option.some.injEq, iff_self_and]
      rintro rfl
      exact hne

/-- No text starts with both tags. -/
theorem paramTag_append_ne (a b : Text) : paramTag ++ a ≠ headerTag ++ b := by
  intro h
  have hparam : (paramTag ++ a).head? = some 'Q' := rfl
  have hheader : (headerTag ++ b).head? = some 'H' := rfl
  rw [h, hheader] at hparam
  exact absurd hparam (by decide)

theorem tags_paramTag_iff {rest : Text} {target : Target} :
    Tags (paramTag ++ rest) target ↔ (taggedName? rest).map param = some target := by
  simp only [Option.map_eq_some_iff, taggedName?_eq_some_iff]
  cases target with
  | param name =>
      simp only [Tags, tag, Target.name, List.append_cancel_left_eq, exists_eq_left, param.injEq,
        exists_eq_right]
  | header name => simp [Tags, tag, (paramTag_append_ne _ _).symm]

theorem tags_headerTag_iff {rest : Text} {target : Target} :
    Tags (headerTag ++ rest) target ↔ (taggedName? rest).map header = some target := by
  simp only [Option.map_eq_some_iff, taggedName?_eq_some_iff]
  cases target with
  | param name => simp [Tags, tag, paramTag_append_ne]
  | header name =>
      simp only [Tags, tag, Target.name, List.append_cancel_left_eq, exists_eq_left, header.injEq,
        exists_eq_right]

/-- Behind a tag a column names what is left of it, if that is anything. -/
theorem resolve?_of_tagged {w : Whitelist} {column : Text} {target : Target}
    (h : Tagged (Text.trimChar '"' column)) :
    resolve? w column = some target ↔ Tags (Text.trimChar '"' column) target := by
  rcases h with ⟨rest, hrest⟩ | ⟨rest, hrest⟩
  · rw [← hrest, tags_paramTag_iff]
    simp only [resolve?, Text.dropPrefix?_eq_some_iff.2 hrest]
  · have hparam : Text.dropPrefix? paramTag (Text.trimChar '"' column) = none := by
      rw [Text.dropPrefix?_eq_none_iff, ← hrest]
      rintro ⟨rest', hrest'⟩
      exact paramTag_append_ne _ _ hrest'
    rw [← hrest, tags_headerTag_iff]
    simp only [resolve?, hparam, Text.dropPrefix?_eq_some_iff.2 hrest]

/-- Without a tag a column names what a valid whitelist gives it. -/
theorem resolve?_of_not_tagged {w : Whitelist} (hvalid : w.Valid) {column : Text}
    {target : Target} (h : ¬ Tagged (Text.trimChar '"' column)) :
    resolve? w column = some target ↔ w.Gives (Text.trimChar '"' column) target := by
  obtain ⟨hparam, hheader⟩ := not_or.1 h
  simp only [resolve?, Text.dropPrefix?_eq_none_iff.2 hparam,
    Text.dropPrefix?_eq_none_iff.2 hheader]
  split
  · next canonical hget =>
      have hgives : w.Gives (Text.trimChar '"' column) (header canonical) := hget
      constructor
      · rintro ⟨⟩
        exact hgives
      · exact fun htarget => congrArg some (hvalid.unique hgives htarget)
  · next hget =>
      cases target with
      | param name => simp [Whitelist.Gives]
      | header name => simp [Whitelist.Gives, hget]

/-- The target of a column, quotes around it ignored: the one that its tag names, or without a tag
the one that a valid whitelist gives it. -/
theorem resolve?_eq_some_iff {w : Whitelist} (hvalid : w.Valid) {column : Text}
    {target : Target} :
    resolve? w column = some target ↔
      Tags (Text.trimChar '"' column) target ∨
        ¬ Tagged (Text.trimChar '"' column) ∧ w.Gives (Text.trimChar '"' column) target := by
  by_cases h : Tagged (Text.trimChar '"' column)
  · simp [resolve?_of_tagged h, h]
  · have htags : ¬ Tags (Text.trimChar '"' column) target := fun htags => h htags.tagged
    simp [resolve?_of_not_tagged hvalid h, h, htags]

/-! ### One value alone -/

/-- The path of tables with one value. -/
def solePath : Text := "/p".toList

/-- The table that has one value for a target and nothing else. -/
def sole : Target → Text → Table
  | param name, value =>
      ⟨solePath, Params.empty.append name value, Dictionary.empty, none, Table.defaultFragment⟩
  | header name, value =>
      ⟨solePath, Params.empty, Dictionary.empty.insert name value, none, Table.defaultFragment⟩

/-- A value that fits its target arrives alone. -/
theorem decode_pair_of_fits {target : Target} {value : Text} (h : target.Fits value) :
    Table.decode (Table.appendPair solePath (target.pair value)) = .ok (target.sole value) := by
  have hpath : Table.scan solePath =
      .ok ⟨solePath, ⟨Params.empty, [], none⟩, Table.defaultFragment⟩ := rfl
  have hrow : ∀ a ∈ [(target, value)], a.1.Fits a.2 := fun a ha => List.mem_singleton.1 ha ▸ h
  have hscan := Plan.scan_extend_of_fits hrow (by decide +kernel) (by decide +kernel) hpath
  refine Table.decode_eq_ok_iff.2 ⟨_, hscan, ?_⟩
  cases target with
  | param name => rfl
  | header name =>
      have hentry : ∀ e ∈ (Dictionary.empty.insert name value).entries, e.1 ≠ [] ∧ e.2 ≠ [] :=
        fun e he => List.mem_singleton.1 he ▸ ⟨h.1.1, h.2⟩
      have hmerge : Header.mergeAll [⟨name, value⟩] = Dictionary.empty.insert name value :=
        Header.mergeAll_entries _ hentry
      simp [Table.Scan.table, Plan.paramsOf, Plan.headersOf, Params.appendPairs, hmerge, sole]

/-- A value arrives alone exactly if it fits its target. -/
theorem decode_pair_iff {target : Target} {value : Text} :
    Table.decode (Table.appendPair solePath (target.pair value)) = .ok (target.sole value) ↔
      target.Fits value := by
  refine ⟨fun h => ?_, decode_pair_of_fits⟩
  have hdecoded := Table.decoded_of_decode h
  cases target with
  | param name => exact hdecoded.params (name, value) List.mem_cons_self
  | header name =>
      obtain ⟨hname, hcolon, hvalue⟩ := hdecoded.headers (name, value) List.mem_cons_self
      exact ⟨⟨hname, hcolon⟩, hvalue⟩

end Target

/-! ### Entries that are honoured -/

namespace Config

/-- **Which entries of a valid configuration are honoured.**  A short name of its whitelist, as a
column, stands for the target of the entry exactly if, without the quotes at its ends, it names that
target by a tag, or has no tag and is given that target.  A value for the target arrives alone
exactly if the target is a header or a parameter whose name the reader of tables does not keep for
itself. -/
theorem honours_iff {c : Config} (hvalid : c.validate = .ok ()) {short : Text} {target : Target}
    (hgives : c.whitelist.Gives short target) {value : Text} (hvalue : value ≠ []) :
    (Target.resolve? c.whitelist short = some target ↔
        Target.Tags (Text.trimChar '"' short) target ∨
          ¬ Target.Tagged (Text.trimChar '"' short) ∧
            c.whitelist.Gives (Text.trimChar '"' short) target) ∧
      (Table.decode (Table.appendPair "/p".toList (target.pair value)) = .ok (target.sole value) ↔
        ∀ name, target = .param name → Table.IsOrdinary name) := by
  have hwhitelist := whitelist_valid hvalid
  refine ⟨Target.resolve?_eq_some_iff hwhitelist, Target.decode_pair_iff.trans ?_⟩
  cases target with
  | param name =>
      constructor
      · rintro hfits _ ⟨⟩
        exact hfits.1
      · exact fun h => ⟨h name rfl, hvalue⟩
  | header name =>
      -- Validation has made sure that a header is legible, whatever its value.
      have hname : name ≠ [] := by
        rintro rfl
        exact absurd (hwhitelist.not_blank hgives).2 (by decide)
      constructor
      · rintro - _ ⟨⟩
      · exact fun _ => ⟨⟨hname, hwhitelist.colon_free hgives⟩, hvalue⟩

/-- A header and a parameter with plain short names. -/
def plainConfig : Config where
  dialect := .postgresql
  whitelist :=
    { headers := Dictionary.ofList [("org_id".toList, "x-cleartax-orgunit".toList)]
      params := Dictionary.ofList [("node_ids".toList, "nodeIds".toList)] }
  auth := .default

theorem honours_plainConfig :
    plainConfig.validate = .ok () ∧
      (Target.resolve? plainConfig.whitelist "org_id".toList =
          some (.header "x-cleartax-orgunit".toList) ∧
        Table.decode (Table.appendPair "/p".toList
            ((Target.header "x-cleartax-orgunit".toList).pair "a:b,&c".toList)) =
          .ok ((Target.header "x-cleartax-orgunit".toList).sole "a:b,&c".toList)) ∧
      (Target.resolve? plainConfig.whitelist "node_ids".toList =
          some (.param "nodeIds".toList) ∧
        Table.decode (Table.appendPair "/p".toList
            ((Target.param "nodeIds".toList).pair "1=2#".toList)) =
          .ok ((Target.param "nodeIds".toList).sole "1=2#".toList)) := by
  have hvalid : plainConfig.validate = .ok () := by decide
  have horg : plainConfig.whitelist.Gives "org_id".toList
      (.header "x-cleartax-orgunit".toList) := by decide
  have hnode : plainConfig.whitelist.Gives "node_ids".toList (.param "nodeIds".toList) := by
    decide
  have hvalues : "a:b,&c".toList ≠ [] ∧ "1=2#".toList ≠ [] := by decide
  obtain ⟨hheader, hsentHeader⟩ := honours_iff hvalid horg hvalues.1
  obtain ⟨hparam, hsentParam⟩ := honours_iff hvalid hnode hvalues.2
  refine ⟨hvalid, ⟨hheader.2 (Or.inr ⟨by decide, by decide⟩), hsentHeader.2 ?_⟩,
    hparam.2 (Or.inr ⟨by decide, by decide⟩), hsentParam.2 ?_⟩
  · rintro _ ⟨⟩
  · rintro _ ⟨⟩
    decide

/-- Parameters with the name of the body, with a short name that has a tag, and with a short name in
quotes. -/
def shadowedConfig : Config where
  dialect := .postgresql
  whitelist :=
    { headers := Dictionary.empty
      params := Dictionary.ofList [("b".toList, "body".toList), ("HEADERx".toList, "x".toList),
        ("\"q\"".toList, "q".toList)] }
  auth := .default

/-- Validation accepts entries that are not honoured: a value for the first one cannot be read, the
second one stands for a header, and the third one for nothing. -/
theorem not_honoured_shadowedConfig :
    shadowedConfig.validate = .ok () ∧
      (shadowedConfig.whitelist.Gives "b".toList (.param "body".toList) ∧
        Target.resolve? shadowedConfig.whitelist "b".toList = some (.param "body".toList) ∧
        Table.decode (Table.appendPair "/p".toList
          ((Target.param "body".toList).pair "x".toList)) = .error (.body .unexpected)) ∧
      (shadowedConfig.whitelist.Gives "HEADERx".toList (.param "x".toList) ∧
        Target.resolve? shadowedConfig.whitelist "HEADERx".toList = some (.header "x".toList)) ∧
      (shadowedConfig.whitelist.Gives "\"q\"".toList (.param "q".toList) ∧
        Target.resolve? shadowedConfig.whitelist "\"q\"".toList = none) := by
  refine ⟨by decide, ⟨by decide, by decide, rfl⟩, ⟨by decide, by decide⟩, by decide, by decide⟩

end Config

end Pushdown
