/-
**Hosts that a configuration names.**

A host is trusted if it is listed in the configuration or stands, without the blanks around it,
between two commas of a variable.  An entry of the variable that is empty counts for nothing.  An
entry that is blank without being empty does count: trimmed it is the empty text, and that is the
host of every request whose host is blank or has nothing but slashes in it.  So the secret goes only
to hosts that are named, unless there is such an entry.

Main definitions:

* `Auth.pieces`, `Auth.Names` — the entries of the variable, and the hosts that are named;
* `Auth.HasBlankPiece` — an entry of the variable is blank without being empty;
* `Request.Hollow` — a host without a name.

Main results:

* `Auth.trusts_iff` — which entries make a host a trusted one;
* `Auth.trusts_iff_names`, `Auth.trusts_nil_iff` — hosts with a name, and the empty host;
* `Request.spares_hollow_iff` — when requests without a host go without the secret;
* `Auth.trusts_named_iff` — **only named hosts are trusted, unless there is a blank entry**.
-/

import Mathlib.Data.List.TakeWhile
import Pushdown.Proofs.Table.Request
import Pushdown.Proofs.Text.Splitting

set_option autoImplicit false

namespace Pushdown

/-! ### Trusted hosts -/

namespace Auth

/-- What stands between the commas of the variable with the trusted hosts; nothing if it is not
set. -/
def pieces (a : Auth) (env : Environment) : List Text :=
  match readVariable env a.domainsVariable with
  | none => []
  | some list => Text.splitAll ',' list

/-- The configuration names a host: it is not empty, and it is listed or stands between commas of
the variable, with or without blanks around it. -/
def Names (a : Auth) (env : Environment) (host : Text) : Prop :=
  host ≠ [] ∧ (host ∈ a.domains ∨ ∃ piece ∈ a.pieces env, Text.trim piece = host)

/-- Some entry of the variable is blank without being empty. -/
def HasBlankPiece (a : Auth) (env : Environment) : Prop :=
  ∃ piece ∈ a.pieces env, piece ≠ [] ∧ Text.isBlankText piece = true

instance (a : Auth) (env : Environment) (host : Text) : Decidable (a.Names env host) :=
  inferInstanceAs (Decidable (_ ∧ (_ ∨ _)))

instance (a : Auth) (env : Environment) : Decidable (a.HasBlankPiece env) :=
  inferInstanceAs (Decidable (∃ piece ∈ a.pieces env, _))

/-- A host is trusted exactly if it is listed or is an entry that is not empty, trimmed. -/
theorem trusts_iff {a : Auth} {env : Environment} {host : Text} :
    a.trusts env host = true ↔
      host ∈ a.domains ∨ ∃ piece ∈ a.pieces env, piece ≠ [] ∧ Text.trim piece = host := by
  rw [trusts, Bool.or_eq_true, List.contains_iff_mem, pieces]
  refine or_congr_right ?_
  cases readVariable env a.domainsVariable with
  | none => simp
  | some list => simp

/-- A host with a name is trusted exactly if it is named. -/
theorem trusts_iff_names {a : Auth} {env : Environment} {host : Text} (h : host ≠ []) :
    a.trusts env host = true ↔ a.Names env host := by
  rw [trusts_iff, Names, and_iff_right h]
  refine or_congr_right (exists_congr fun piece => and_congr_right fun _ => ?_)
  refine and_iff_right_of_imp ?_
  rintro rfl rfl
  exact h rfl

/-- The empty host, if it is not listed, is trusted exactly if an entry is blank. -/
theorem trusts_nil_iff {a : Auth} {env : Environment} (h : [] ∉ a.domains) :
    a.trusts env [] = true ↔ a.HasBlankPiece env := by
  rw [trusts_iff, or_iff_right h]
  simp only [Text.trim_eq_nil_iff, HasBlankPiece]

end Auth

/-! ### Requests without a host -/

namespace Request

/-- A host without a name: blanks around nothing but slashes. -/
def Hollow (host : Text) : Prop := ∀ c ∈ Text.trim host, c = '/'

instance (host : Text) : Decidable (Hollow host) := inferInstanceAs (Decidable (∀ _ ∈ _, _))

theorem bareHost_eq_nil_iff {host : Text} : bareHost host = [] ↔ Hollow host := by
  rw [bareHost, Text.trimCharRight, List.reverse_eq_nil_iff, List.dropWhile_eq_nil_iff]
  simp [Hollow]

/-- The request of a table on a host has the headers that authorization leaves. -/
theorem headers_of_plan {a : Auth} {env : Environment} {uri host : Text} {secure : Bool}
    {t : Table} {r : Request} (ht : Table.decode uri = .ok t)
    (hr : plan a env uri host secure = .ok r) :
    r.headers = authorize a env (bareHost host) t.headers := by
  rw [plan, ht] at hr
  rw [← Except.ok.inj hr]
  rfl

/-- Requests without a host go without the secret exactly if no entry of the variable is blank, or
there is no secret. -/
theorem spares_hollow_iff {a : Auth} (hdomains : [] ∉ a.domains) (env : Environment) :
    (∀ uri host secure t r, Hollow host → Table.decode uri = .ok t →
        plan a env uri host secure = .ok r → r.headers = t.headers) ↔
      ¬ a.HasBlankPiece env ∨ a.token? env = none := by
  constructor
  · intro h
    by_cases hpiece : a.HasBlankPiece env
    · refine Or.inr ?_
      cases htoken : a.token? env with
      | none => rfl
      | some token =>
          -- A table without headers shows the secret.
          have hdecode : Table.decode "/p".toList = .ok (Table.ofPath "/p".toList) := by
            decide +kernel
          have htrusts : a.trusts env (bareHost []) = true := (Auth.trusts_nil_iff hdomains).2 hpiece
          have hplan : plan a env "/p".toList [] true =
              .ok (ofTable a env (Table.ofPath "/p".toList) (bareHost []) true) := by
            rw [plan, hdecode]
            rfl
          have hheaders := h _ [] true _ _ (by decide) hdecode hplan
          rw [headers_of_plan hdecode hplan, authorize_of_trusts htrusts htoken] at hheaders
          exact absurd (congrArg Dictionary.entries hheaders) (List.cons_ne_nil _ _)
    · exact Or.inl hpiece
  · intro h uri host secure t r hhollow ht hr
    rw [headers_of_plan ht hr, bareHost_eq_nil_iff.2 hhollow]
    refine authorize_of_not_trusts (h.imp_left fun hpiece => ?_) t.headers
    rw [← Bool.not_eq_true, Auth.trusts_nil_iff hdomains]
    exact hpiece

end Request

/-! ### Named hosts -/

namespace Auth

/-- **Only named hosts are trusted, unless there is a blank entry.**  Take a configuration that does
not list the empty host.  Of the hosts that are not empty it trusts those that it names; of all
hosts it trusts exactly those if and only if no entry of the variable is blank without being empty.
The same makes requests without a host go without the secret, if there is one. -/
theorem trusts_named_iff {a : Auth} (hdomains : [] ∉ a.domains) (env : Environment) :
    (∀ host, host ≠ [] → (a.trusts env host = true ↔ a.Names env host)) ∧
      ((∀ host, a.trusts env host = true ↔ a.Names env host) ↔ ¬ a.HasBlankPiece env) ∧
      ((∀ uri host secure t r, Request.Hollow host → Table.decode uri = .ok t →
          Request.plan a env uri host secure = .ok r → r.headers = t.headers) ↔
        ¬ a.HasBlankPiece env ∨ a.token? env = none) := by
  refine ⟨fun host => trusts_iff_names, ⟨fun h hpiece => ?_, fun hpiece host => ?_⟩,
    Request.spares_hollow_iff hdomains env⟩
  · exact ((h []).1 ((trusts_nil_iff hdomains).2 hpiece)).1 rfl
  · by_cases hhost : host = []
    · subst hhost
      exact iff_of_false (fun htrusts => hpiece ((trusts_nil_iff hdomains).1 htrusts))
        fun hnames => hnames.1 rfl
    · exact trusts_iff_names hhost

/-- A secret, and trusted hosts with what is given between the second and the third comma. -/
def listEnvironment (entry : Text) : Environment := fun name =>
  if name = "CL_AUTH_TOKEN".toList then some "x-key=secret".toList
  else if name = "CL_WHITE_LISTED_DOMAINS".toList then
    some ("a.example.com, b.example.com,".toList ++ entry ++ ",".toList)
  else none

/-- Two empty entries trust nobody. -/
theorem trusts_named_listEnvironment :
    [] ∉ Auth.default.domains ∧ ¬ Auth.default.HasBlankPiece (listEnvironment []) ∧
      Auth.default.trusts (listEnvironment []) "b.example.com".toList = true ∧
      Auth.default.trusts (listEnvironment []) [] = false ∧
      ∀ r, Request.plan Auth.default (listEnvironment []) "/p?header=k:v".toList " // ".toList true =
        .ok r → r.headers = Dictionary.empty.insert "k".toList "v".toList := by
  have hdomains : [] ∉ Auth.default.domains := by decide
  have hpieces : ¬ Auth.default.HasBlankPiece (listEnvironment []) := by decide +kernel
  obtain ⟨hnamed, hall, hspares⟩ := trusts_named_iff hdomains (listEnvironment [])
  have hdecode : Table.decode "/p?header=k:v".toList = .ok ⟨"/p".toList, Params.empty,
      Dictionary.empty.insert "k".toList "v".toList, none, Table.defaultFragment⟩ := by
    decide +kernel
  refine ⟨hdomains, hpieces, (hnamed _ (by decide)).2 (by decide +kernel), ?_, fun r hr => ?_⟩
  · rw [← Bool.not_eq_true, hall.2 hpieces]
    exact fun hnames => hnames.1 rfl
  · exact hspares.2 (Or.inl hpieces) _ _ _ _ r (by decide) hdecode hr

/-- A blank between two commas makes the empty host a trusted one, and the secret goes out with a
request without a host. -/
theorem trusts_blank_listEnvironment :
    Auth.default.domains = [] ∧
      Auth.default.trusts (listEnvironment " ".toList) [] = true ∧
      ¬ Auth.default.Names (listEnvironment " ".toList) [] ∧
      (Request.plan Auth.default (listEnvironment " ".toList) "/p".toList " // ".toList true).map
          Request.headers = .ok (Dictionary.empty.insert "x-key".toList "secret".toList) := by
  decide +kernel

end Auth

end Pushdown
