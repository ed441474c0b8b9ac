/-
**No binding is lost.**

A binding leaves the statement, so its values have to arrive with the request.  A value arrives
under its target if the target is one that the reader of tables knows and the value is not empty;
and the first value has to find the end of the table open.  Every further value is read behind the
one before it.

Main definitions:

* `Target.Fits` — a value can arrive under a target;
* `Table.QueryParts.Carries`, `Table.Carried` — a value is among those read for a target;
* `Plan.assignments` — the values of bindings with their targets;
* `Plan.FirstCarried` — the first value arrives.

Main results:

* `Table.addPair_sent` — one pair brings its own value and nothing else;
* `Plan.scan_extend` — a row of values arrives as a whole;
* `Plan.carried_iff` — **every value arrives exactly if all of them fit and the first one arrives**.
-/

import Pushdown.Proofs.Plan.Moves
import Pushdown.Proofs.Table.Growth

set_option autoImplicit false

namespace Pushdown

/-! ### Values and their targets -/

namespace Target

/-- The name and value that carry a value to a target. -/
def sent : Target → Text → Text × Text
  | param name, value => (name, value)
  | header name, value => (Table.headerPrefix, name ++ ':' :: value)

/-- A value can arrive under a target: it is not empty, and the name is one that is read back. -/
def Fits : Target → Text → Prop
  | param name, value => Table.IsOrdinary name ∧ value ≠ []
  | header name, value => (name ≠ [] ∧ ':' ∉ name) ∧ value ≠ []

instance : (target : Target) → (value : Text) → Decidable (target.Fits value)
  | param _, _ => inferInstanceAs (Decidable (_ ∧ _))
  | header _, _ => inferInstanceAs (Decidable (_ ∧ _))

/-- A pair is read as the name and value that it sends. -/
theorem readPairs_pair (target : Target) (value : Text) :
    Form.readPairs (target.pair value) = [target.sent value] := by
  cases target with
  | param name =>
      have hname : '=' ∉ Percent.encode name := Percent.not_mem_encode (by decide) name
      have hamp : '&' ∉ Percent.encode name ++ '=' :: Percent.encode value :=
        Text.not_mem_append_cons (Percent.not_mem_encode (by decide) name) (by decide)
          (Percent.not_mem_encode (by decide) value)
      rw [pair, Table.paramPair, Form.readPairs_piece hname hamp, Form.decode_percent,
        Form.decode_percent]
      rfl
  | header name =>
      have hname : ∀ c ∈ Table.headerPrefix, Percent.isAsciiAlphanum c = true := by decide
      exact Table.readPairs_header hname name value

end Target

namespace Table

/-! ### Values that are read -/

/-- The parts of a query have a value for a target. -/
def QueryParts.Carries (parts : QueryParts) : Target → Text → Prop
  | .param name, value => ∃ values, parts.params.get? name = some values ∧ value ∈ values
  | .header name, value => ⟨name, value⟩ ∈ parts.headers

/-- One pair brings its own value and nothing else. -/
theorem addPair_sent (parts : QueryParts) {target : Target} {value : Text}
    (h : target.Fits value) :
    ∃ parts', addPairs parts [target.sent value] = .ok parts' ∧
      ∀ t v, parts'.Carries t v ↔ parts.Carries t v ∨ (t, v) = (target, value) := by
  cases target with
  | param name =>
      refine ⟨{ parts with params := parts.params.append name value }, ?_, fun t v => ?_⟩
      · simp only [addPairs, Target.sent, addPair_ordinary h.1 h.2]
      · cases t with
        | header n => simp [QueryParts.Carries]
        | param n =>
            simp only [QueryParts.Carries, Params.get?_append, Prod.mk.injEq, Target.param.injEq]
            by_cases hn : name = n
            · subst hn
              cases parts.params.get? name <;> simp [or_comm]
            · simp [hn, Ne.symm hn]
  | header name =>
      have hparse : Header.parse? (name ++ ':' :: value) = some ⟨name, value⟩ := by
        simp [Header.parse?, Text.splitFirst?_append h.1.2]
      refine ⟨{ parts with headers := parts.headers ++ [⟨name, value⟩] }, ?_, fun t v => ?_⟩
      · simp only [addPairs, Target.sent,
          addPair_header (List.prefix_refl _) (by simp : name ++ ':' :: value ≠ []), hparse]
      · cases t with
        | param n => simp [QueryParts.Carries]
        | header n => simp [QueryParts.Carries, Prod.ext_iff]

/-- A value is carried by the text of a table: it is among the values of a parameter, or among the
distinct values, in increasing order, whose join is a header. -/
def Carried (s : Text) : Target → Text → Prop
  | .param name, value =>
      ∃ t, decode s = .ok t ∧ ∃ values, t.params.get? name = some values ∧ value ∈ values
  | .header name, value =>
      ∃ r t, scan s = .ok r ∧ decode s = .ok t ∧
        ∃ values, t.headers.get? name = some (Text.joinWith [','] values) ∧
          (values.Pairwise fun a b => Text.precedes a b = true) ∧
          (∀ v, v ∈ values ↔ ⟨name, v⟩ ∈ r.parts.headers ∧ v ≠ []) ∧ value ∈ values

/-- The table that a scan is read as. -/
def Scan.table (r : Scan) : Table :=
  ⟨r.path, r.parts.params, Header.mergeAll r.parts.headers, r.parts.body, r.fragment⟩

theorem decode_eq_ok_iff {s : Text} {t : Table} :
    decode s = .ok t ↔ ∃ r, scan s = .ok r ∧ r.table = t := by
  constructor
  · exact Outcome.exists_of_map_eq_ok
  · rintro ⟨r, hr, rfl⟩
    rw [decode, hr]
    rfl

theorem sound_of_scan {s : Text} {r : Scan} (h : scan s = .ok r) : r.parts.Sound := by
  obtain ⟨query, fragment, -, hquery, -⟩ := scan_eq_ok_iff.1 h
  exact readQuery_sound hquery

/-- A value that is carried fits its target. -/
theorem Carried.fits {s : Text} {target : Target} {value : Text} (h : Carried s target value) :
    target.Fits value := by
  cases target with
  | param name =>
      obtain ⟨t, ht, values, hvalues, hv⟩ := h
      obtain ⟨r, hr, rfl⟩ := decode_eq_ok_iff.1 ht
      have hpair : (name, value) ∈ r.parts.params.pairs :=
        Params.mem_pairs.2 ⟨(name, values), Dictionary.mem_of_lookup hvalues, rfl, hv⟩
      exact (sound_of_scan hr).params _ hpair
  | header name =>
      obtain ⟨r, t, hr, ht, values, hvalues, -, hmem, hv⟩ := h
      obtain ⟨r', hr', rfl⟩ := decode_eq_ok_iff.1 ht
      obtain ⟨hheader, hne⟩ := (hmem value).1 hv
      exact ⟨⟨(Header.ne_nil_of_get?_mergeAll hvalues).1, (sound_of_scan hr).headers _ hheader⟩,
        hne⟩

/-- Of the values that fit, those are carried that are read. -/
theorem carried_iff_carries {s : Text} {r : Scan} (hr : scan s = .ok r) {target : Target}
    {value : Text} (hfits : target.Fits value) :
    Carried s target value ↔ r.parts.Carries target value := by
  have htable : decode s = .ok r.table := decode_eq_ok_iff.2 ⟨r, hr, rfl⟩
  cases target with
  | param name =>
      constructor
      · rintro ⟨t, ht, hvalues⟩
        rw [htable] at ht
        rw [← Except.ok.inj ht] at hvalues
        exact hvalues
      · exact fun hvalues => ⟨r.table, htable, hvalues⟩
  | header name =>
      constructor
      · rintro ⟨r', t, hr', -, values, -, -, hmem, hv⟩
        rw [hr] at hr'
        rw [Except.ok.inj hr']
        exact ((hmem value).1 hv).1
      · intro hheader
        have hvalue : value ∈ Header.valuesOf name r.parts.headers :=
          Header.mem_valuesOf.2 ⟨hheader, hfits.1.1, hfits.2⟩
        refine ⟨r, r.table, hr, htable, Header.sorted (Header.valuesOf name r.parts.headers),
          ?_, Header.sorted_increasing _, fun v => ?_, Header.mem_sorted.2 hvalue⟩
        · exact (Header.get?_mergeAll _ name).trans (if_neg (List.ne_nil_of_mem hvalue))
        · rw [Header.mem_sorted, Header.mem_valuesOf]
          exact ⟨fun h => ⟨h.1, h.2.2⟩, fun h => ⟨h.1, hfits.1.1, h.2⟩⟩

end Table

/-! ### Rows of values -/

namespace Plan

/-- The values of bindings in order, each with its target. -/
def assignments (bindings : List Binding) : List (Target × Text) :=
  bindings.flatMap fun b => b.values.map fun v => (b.target, v)

/-- The pairs of a row of values. -/
def rowPairs (row : List (Target × Text)) : List Text := row.map fun a => a.1.pair a.2

theorem pairs_eq_rowPairs (bindings : List Binding) :
    pairs bindings = rowPairs (assignments bindings) := by
  simp [pairs, rowPairs, assignments, List.map_flatMap, Function.comp_def]

theorem mem_assignments {bindings : List Binding} {target : Target} {value : Text} :
    (target, value) ∈ assignments bindings ↔
      ∃ b ∈ bindings, b.target = target ∧ value ∈ b.values := by
  simp only [assignments, List.mem_flatMap, List.mem_map, Prod.mk.injEq]
  constructor
  · rintro ⟨b, hb, v, hv, htarget, rfl⟩
    exact ⟨b, hb, htarget, hv⟩
  · rintro ⟨b, hb, htarget, hv⟩
    exact ⟨b, hb, value, hv, htarget, rfl⟩

/-- A row of values that fit arrives as a whole behind a table that is open: the longer table is
read exactly if the table is, and has the values of the row and those from before. -/
theorem scan_extend {uri : Text} {row : List (Target × Text)}
    (hrow : ∀ a ∈ row, a.1.Fits a.2) (hext : Table.Extensible uri)
    (htrim : Text.trim uri = uri) :
    (∀ r, Table.scan uri = .ok r → ∃ r', Table.scan (extend uri (rowPairs row)) = .ok r') ∧
      ∀ r', Table.scan (extend uri (rowPairs row)) = .ok r' →
        ∃ r, Table.scan uri = .ok r ∧
          ∀ t v, r'.parts.Carries t v ↔ r.parts.Carries t v ∨ (t, v) ∈ row := by
  induction row generalizing uri with
  | nil =>
      refine ⟨fun r hr => ⟨r, hr⟩, fun r' hr' => ⟨r', hr', fun t v => ?_⟩⟩
      simp
  | cons a row ih =>
      have hfits := hrow a List.mem_cons_self
      have hne := a.1.pair_ne_nil a.2
      have hchars := a.1.isQueryChar_pair a.2
      have hstep := fun r₁ : Table.Scan =>
        (Table.scan_appendPair_iff hext htrim hne hchars : Table.scan _ = .ok r₁ ↔ _)
      obtain ⟨hforth, hback⟩ := ih (fun x hx => hrow x (List.mem_cons_of_mem _ hx))
        (Table.extensible_appendPair uri hne hchars) (Table.trim_appendPair htrim hne hchars)
      rw [Target.readPairs_pair] at hstep
      constructor
      · intro r hr
        obtain ⟨parts, hparts, -⟩ := Table.addPair_sent r.parts hfits
        exact hforth ⟨r.path, parts, r.fragment⟩ ((hstep _).2 ⟨r, hr, hparts, rfl, rfl⟩)
      · intro r' hr'
        obtain ⟨r₁, hr₁, hcarries₁⟩ := hback r' hr'
        obtain ⟨r, hr, hadd, -, -⟩ := (hstep r₁).1 hr₁
        obtain ⟨parts, hparts, hcarries⟩ := Table.addPair_sent r.parts hfits
        have hsame : parts = r₁.parts := Except.ok.inj (hparts.symm.trans hadd)
        refine ⟨r, hr, fun t v => ?_⟩
        rw [hcarries₁, ← hsame, hcarries, List.mem_cons, or_assoc]

/-! ### The first value -/

/-- The first value of a row arrives: the table that it is appended to can be read, and has it, if
it does not come again later. -/
def FirstCarried (base : Text) : List (Target × Text) → Prop
  | [] => True
  | (target, value) :: rest =>
      (∃ t, Table.decode (Table.appendPair base (target.pair value)) = .ok t) ∧
        (Table.Carried (Table.appendPair base (target.pair value)) target value ∨
          (target, value) ∈ rest)

/-- A table carries every value of a row. -/
def CarriesAll (uri : Text) (row : List (Target × Text)) : Prop :=
  (∃ t, Table.decode uri = .ok t) ∧ ∀ a ∈ row, Table.Carried uri a.1 a.2

/-- Behind a table that is open a row of values that fit arrives. -/
theorem carriesAll_of_extensible {base : Text} {row : List (Target × Text)}
    (hrow : ∀ a ∈ row, a.1.Fits a.2) (hext : Table.Extensible base)
    (htrim : Text.trim base = base) (hdecode : ∃ t, Table.decode base = .ok t) :
    CarriesAll (extend base (rowPairs row)) row := by
  obtain ⟨t, ht⟩ := hdecode
  obtain ⟨r, hr, -⟩ := Table.decode_eq_ok_iff.1 ht
  obtain ⟨hforth, hback⟩ := scan_extend hrow hext htrim
  obtain ⟨r', hr'⟩ := hforth r hr
  obtain ⟨r₀, -, hcarries⟩ := hback r' hr'
  refine ⟨⟨_, Table.decode_eq_ok_iff.2 ⟨r', hr', rfl⟩⟩, fun a ha => ?_⟩
  exact (Table.carried_iff_carries hr' (hrow a ha)).2 ((hcarries a.1 a.2).2 (Or.inr ha))

/-- A row of values that fit arrives exactly if its first value does. -/
theorem carriesAll_iff_first {base : Text} {row : List (Target × Text)}
    (hrow : ∀ a ∈ row, a.1.Fits a.2) (htrim : Text.trim base = base)
    (hdecode : ∃ t, Table.decode base = .ok t) :
    CarriesAll (extend base (rowPairs row)) row ↔ FirstCarried base row := by
  cases row with
  | nil => exact ⟨fun _ => trivial, fun _ => ⟨hdecode, fun a ha => absurd ha List.not_mem_nil⟩⟩
  | cons a row =>
      obtain ⟨target, value⟩ := a
      have hfits := hrow _ List.mem_cons_self
      have hrest : ∀ x ∈ row, x.1.Fits x.2 := fun x hx => hrow x (List.mem_cons_of_mem _ hx)
      have hne := target.pair_ne_nil value
      have hchars := target.isQueryChar_pair value
      obtain ⟨hforth, hback⟩ := scan_extend hrest (Table.extensible_appendPair base hne hchars)
        (Table.trim_appendPair htrim hne hchars)
      constructor
      · rintro ⟨⟨t, ht⟩, hall⟩
        obtain ⟨r', hr', -⟩ := Table.decode_eq_ok_iff.1 ht
        obtain ⟨r, hr, hcarries⟩ := hback r' hr'
        refine ⟨⟨_, Table.decode_eq_ok_iff.2 ⟨r, hr, rfl⟩⟩, ?_⟩
        have hlast := hall _ List.mem_cons_self
        rw [Table.carried_iff_carries hr' hfits, hcarries] at hlast
        exact hlast.imp_left (Table.carried_iff_carries hr hfits).2
      · rintro ⟨⟨t, ht⟩, hfirst⟩
        obtain ⟨r, hr, -⟩ := Table.decode_eq_ok_iff.1 ht
        obtain ⟨r', hr'⟩ := hforth r hr
        obtain ⟨r₀, hr₀, hcarries⟩ := hback r' hr'
        have hsame : r₀ = r := Except.ok.inj (hr₀.symm.trans hr)
        refine ⟨⟨_, Table.decode_eq_ok_iff.2 ⟨r', hr', rfl⟩⟩, fun x hx => ?_⟩
        refine (Table.carried_iff_carries hr' (hrow x hx)).2 ((hcarries x.1 x.2).2 ?_)
        rcases List.mem_cons.1 hx with rfl | hx
        · rw [hsame]
          exact hfirst.imp_left (Table.carried_iff_carries hr hfits).1
        · exact Or.inr hx

/-! ### Plans -/

theorem decode_trim (uri : Text) : Table.decode (Text.trim uri) = Table.decode uri := by
  rw [Table.decode, Table.decode, Table.scan, Table.scan, Text.trim_trim]

theorem forall_assignments_iff {bindings : List Binding} {P : Target → Text → Prop} :
    (∀ a ∈ assignments bindings, P a.1 a.2) ↔ ∀ b ∈ bindings, ∀ v ∈ b.values, P b.target v := by
  constructor
  · intro h b hb v hv
    exact h (b.target, v) (mem_assignments.2 ⟨b, hb, rfl, hv⟩)
  · intro h a ha
    obtain ⟨b, hb, htarget, hv⟩ := mem_assignments.1 ha
    exact htarget ▸ h b hb a.2 hv

/-- **No binding is lost.**  Let the table of a plan be readable before.  Then it is readable
afterwards, and every binding has values that it all carries, exactly if every binding has values
that fit its target, and a pair can be appended to the table, or at least the first value
arrives. -/
theorem carried_iff {c : Config} {uri sql : Text} {o : Plan}
    (hdecode : ∃ t, Table.decode uri = .ok t) (hmake : make c uri sql = .ok o) :
    ((∃ t, Table.decode o.uri = .ok t) ∧ ∀ b ∈ o.bindings, b.values ≠ [] ∧
        ∀ v ∈ b.values, Table.Carried o.uri b.target v) ↔
      (∀ b ∈ o.bindings, b.values ≠ [] ∧ ∀ v ∈ b.values, b.target.Fits v) ∧
        (Table.Extensible (Text.trim uri) ∨
          FirstCarried (Text.trim uri) (assignments o.bindings)) := by
  by_cases hbindings : o.bindings = []
  · obtain ⟨statements, -, ⟨-, rfl⟩ | hmoves⟩ := make_eq_ok_iff.1 hmake
    · simp [hdecode, assignments, FirstCarried]
    · exact absurd hbindings hmoves.bindings_ne_nil
  · obtain ⟨statements, hmoves⟩ := exists_moves hmake hbindings
    have htrim := Text.trim_trim uri
    have hbase : ∃ t, Table.decode (Text.trim uri) = .ok t := decode_trim uri ▸ hdecode
    have huri : o.uri = extend (Text.trim uri) (rowPairs (assignments o.bindings)) := by
      rw [hmoves.uri_eq, pairs_eq_rowPairs]
    constructor
    · rintro ⟨hread, hall⟩
      have hfits : ∀ a ∈ assignments o.bindings, a.1.Fits a.2 :=
        forall_assignments_iff.2 fun b hb v hv => ((hall b hb).2 v hv).fits
      refine ⟨fun b hb => ⟨(hall b hb).1, fun v hv => ((hall b hb).2 v hv).fits⟩, Or.inr ?_⟩
      refine (carriesAll_iff_first hfits htrim hbase).1 ?_
      rw [← huri]
      exact ⟨hread, forall_assignments_iff.2 fun b hb => (hall b hb).2⟩
    · rintro ⟨hall, hfirst⟩
      have hfits : ∀ a ∈ assignments o.bindings, a.1.Fits a.2 :=
        forall_assignments_iff.2 fun b hb => (hall b hb).2
      have hcarries : CarriesAll o.uri (assignments o.bindings) := by
        rw [huri]
        rcases hfirst with hext | hfirst
        · exact carriesAll_of_extensible hfits hext htrim hbase
        · exact (carriesAll_iff_first hfits htrim hbase).2 hfirst
      exact ⟨hcarries.1, fun b hb =>
        ⟨(hall b hb).1, forall_assignments_iff.1 hcarries.2 b hb⟩⟩

/-- The plan of a list and a header, in front of a fragment. -/
def listPlan : Plan where
  uri := "/a?x=1&x=2&header=k:u%2Cv#f".toList
  sql := "SELECT * FROM \"/a?x=1&x=2&header=k:u%2Cv#f\"".toList
  bindings := [⟨.param "x".toList, ["1".toList, "2".toList]⟩, ⟨.header "k".toList, ["u,v".toList]⟩]

set_option maxRecDepth 100000 in
theorem carried_listPlan :
    (∃ t, Table.decode listPlan.uri = .ok t) ∧ ∀ b ∈ listPlan.bindings, b.values ≠ [] ∧
      ∀ v ∈ b.values, Table.Carried listPlan.uri b.target v := by
  have hdecode : Table.decode " /a#f".toList =
      .ok ⟨"/a".toList, Params.empty, Dictionary.empty, none, "f".toList⟩ := by decide +kernel
  have hmake : make Config.default " /a#f".toList
      "SELECT * FROM \"/a#f\" WHERE QUERY_PARAMx IN (1, '2') AND HEADERk = 'u,v'".toList =
        .ok listPlan := by decide +kernel
  exact (carried_iff ⟨_, hdecode⟩ hmake).2 ⟨by decide +kernel, Or.inl (by decide +kernel)⟩

/-- The plan of one parameter behind a value that ends in a question mark. -/
def gluedPlan : Plan where
  uri := "/a?q=what?x=1".toList
  sql := "SELECT * FROM \"/a?q=what?x=1\"".toList
  bindings := [⟨.param "x".toList, ["1".toList]⟩]

set_option maxRecDepth 100000 in
/-- A value that ends in a question mark swallows the first parameter. -/
theorem not_carried_gluedPlan :
    (∃ t, Table.decode "/a?q=what?".toList = .ok t) ∧
      make Config.default "/a?q=what?".toList
        "SELECT * FROM \"/a?q=what?\" WHERE QUERY_PARAMx = 1".toList = .ok gluedPlan ∧
      ¬ ∀ b ∈ gluedPlan.bindings, b.values ≠ [] ∧
          ∀ v ∈ b.values, Table.Carried gluedPlan.uri b.target v := by
  have hbefore : Table.decode "/a?q=what?".toList =
      .ok ⟨"/a".toList, Params.empty.append "q".toList "what?".toList, Dictionary.empty, none,
        Table.defaultFragment⟩ := by decide +kernel
  have hmake : make Config.default "/a?q=what?".toList
      "SELECT * FROM \"/a?q=what?\" WHERE QUERY_PARAMx = 1".toList = .ok gluedPlan := by
    decide +kernel
  have hafter : Table.decode gluedPlan.uri =
      .ok ⟨"/a".toList, Params.empty.append "q".toList "what?x=1".toList, Dictionary.empty, none,
        Table.defaultFragment⟩ := by decide +kernel
  refine ⟨⟨_, hbefore⟩, hmake, fun hall => ?_⟩
  obtain ⟨t, ht, values, hvalues, -⟩ := (hall _ List.mem_cons_self).2 _ List.mem_cons_self
  rw [hafter] at ht
  have hnone : (Params.empty.append "q".toList "what?x=1".toList).get? "x".toList = none := by
    decide +kernel
  rw [← Except.ok.inj ht, hnone] at hvalues
  exact absurd hvalues (by simp)

end Plan

end Pushdown
