/-
**Requests and trusted hosts.**

The authentication header is a secret that only trusted hosts may learn.  It stands in a variable of
its own, cut at the first equals sign into a name and a value.  The host that is asked about is the
one that the address of the request begins with, and no path of a table can make it another one.
Whether a host is trusted does not depend on the variable that holds the secret, so to all other
hosts that variable makes no difference.

Main definitions:

* `Environment.AgreeExcept` — environments that differ in one variable at most;
* `Request.AsksFor` — what the request of a table on a host is.

Main results:

* `Auth.token?_eq_some_iff` — which header the variable gives;
* `Request.rootedPath_cases` — a path is empty or starts with a slash;
* `Request.takeWhile_host` — a path neither extends a host nor changes it;
* `Auth.trusts_congr` — who is trusted does not depend on the secret;
* `Request.plan_asks` — **the request of a table, and who can learn the secret**.
-/

import Pushdown.Proofs.Outcome
import Pushdown.Proofs.Text.Splitting
import Pushdown.Proofs.Url.Front
import Pushdown.Table.Request

set_option autoImplicit false

namespace Pushdown

/-! ### The secret -/

/-- Environments that agree on all variables but one. -/
def Environment.AgreeExcept (secret : Text) (env env' : Environment) : Prop :=
  ∀ name, name ≠ secret → env name = env' name

namespace Auth

/-- The variable gives a header exactly if it has an equals sign and the text in front of the first
one is not blank: that text, trimmed, is the name, and all that stands behind the sign is the
value. -/
theorem token?_eq_some_iff {a : Auth} {env : Environment} {name value : Text} :
    a.token? env = some (name, value) ↔
      ∃ front, readVariable env a.tokenVariable = some (front ++ '=' :: value) ∧ '=' ∉ front ∧
        Text.trim front = name ∧ name ≠ [] := by
  have hblank (front : Text) : Text.isBlankText front = true ↔ Text.trim front = [] :=
    Text.trim_eq_nil_iff.symm
  constructor
  · intro h
    unfold token? at h
    split at h
    · exact absurd h (by simp)
    · next raw hraw =>
        split at h
        · exact absurd h (by simp)
        · next front rest hsplit =>
            obtain ⟨rfl, hfront⟩ := Text.eq_append_of_splitFirst? hsplit
            split at h
            · exact absurd h (by simp)
            · next hname =>
                obtain ⟨rfl, rfl⟩ := Prod.mk.inj (Option.some.inj h)
                exact ⟨front, hraw, hfront, rfl, mt (hblank front).2 hname⟩
  · rintro ⟨front, hraw, hfront, rfl, hname⟩
    simp only [token?, hraw, Text.splitFirst?_append hfront, if_neg (mt (hblank front).1 hname)]

theorem readVariable_congr {secret name : Text} {env env' : Environment}
    (h : Environment.AgreeExcept secret env env') (hname : name ≠ secret) :
    readVariable env name = readVariable env' name := by
  rw [readVariable, readVariable, h name hname]

/-- Who is trusted does not depend on the secret, if it has a variable of its own. -/
theorem trusts_congr {a : Auth} {env env' : Environment}
    (h : Environment.AgreeExcept a.tokenVariable env env')
    (hown : a.tokenVariable ≠ a.domainsVariable) (host : Text) :
    a.trusts env host = a.trusts env' host := by
  rw [trusts, trusts, readVariable_congr h hown.symm]

end Auth

namespace Request

/-! ### The address -/

/-- A path is empty or starts with a slash. -/
theorem rootedPath_cases (path : Text) :
    rootedPath path = [] ∨ ∃ rest, rootedPath path = '/' :: rest := by
  unfold rootedPath
  split
  · exact Or.inl rfl
  · exact Or.inr ⟨_, rfl⟩
  · exact Or.inr ⟨_, rfl⟩

/-- A path neither extends a host nor changes it: whatever belongs to a host, if a slash does not,
it is the same with the path and without. -/
theorem takeWhile_host {belongs : Char → Bool} (hslash : belongs '/' = false) (host path : Text) :
    (host ++ rootedPath path).takeWhile belongs = host.takeWhile belongs := by
  refine (Text.takeWhile_append_of_head (fun c hc => ?_) host).1
  rcases rootedPath_cases path with hnil | ⟨rest, hrest⟩
  · rw [hnil] at hc
    exact absurd hc (by simp)
  · rw [hrest] at hc
    exact Option.some.inj hc ▸ hslash

/-! ### The headers -/

/-- A trusted host gets the secret over a header of the same name. -/
theorem authorize_of_trusts {auth : Auth} {env : Environment} {host name value : Text}
    (htrusts : auth.trusts env host = true) (htoken : auth.token? env = some (name, value))
    (headers : Dictionary Text) :
    authorize auth env host headers = headers.insert name value := by
  rw [authorize, if_pos htrusts, htoken]

/-- Any other host gets the headers of the table, and so does every host if there is no secret. -/
theorem authorize_of_not_trusts {auth : Auth} {env : Environment} {host : Text}
    (h : auth.trusts env host = false ∨ auth.token? env = none) (headers : Dictionary Text) :
    authorize auth env host headers = headers := by
  unfold authorize
  split
  · next htrusts =>
      rcases h with hnot | hnone
      · exact absurd htrusts (by simp [hnot])
      · rw [hnone]
  · rfl

/-! ### The request -/

/-- What the request of a table on a host is: the address is the scheme, the host and at most a path
behind it, the parameters, the body and the fragment are those of the table, and the headers are
those of the table with the secret exactly if the host is trusted and there is one. -/
structure AsksFor (auth : Auth) (env : Environment) (scheme host : Text) (t : Table)
    (r : Request) : Prop where
  url : ∃ path, r.url = scheme ++ "://".toList ++ host ++ path ∧
    (path = [] ∨ ∃ rest, path = '/' :: rest) ∧
    ∀ belongs : Char → Bool, belongs '/' = false →
      (host ++ path).takeWhile belongs = host.takeWhile belongs
  params : r.params = t.params
  body : r.body = t.body
  fragment : r.fragment = t.fragment
  authorized : ∀ name value, auth.trusts env host = true →
    auth.token? env = some (name, value) → r.headers = t.headers.insert name value
  unauthorized : auth.trusts env host = false ∨ auth.token? env = none → r.headers = t.headers

theorem ofTable_asksFor (auth : Auth) (env : Environment) (t : Table) (host : Text)
    (https : Option Bool) :
    AsksFor auth env (if https = some false then "http".toList else "https".toList) host t
      (ofTable auth env t host (https != some false)) where
  url := by
    refine ⟨rootedPath t.path, ?_, rootedPath_cases t.path, fun belongs hslash =>
      takeWhile_host hslash host t.path⟩
    by_cases h : https = some false
    · simp [ofTable, h]
    · simp [ofTable, h]
  params := rfl
  body := rfl
  fragment := rfl
  authorized := fun _ _ htrusts htoken => authorize_of_trusts htrusts htoken t.headers
  unauthorized := fun h => authorize_of_not_trusts h t.headers

theorem plan_eq_error_iff {auth : Auth} {env : Environment} {uri host : Text} {secure : Bool}
    {e : Table.DecodeError} :
    plan auth env uri host secure = .error e ↔ Table.decode uri = .error e := by
  rw [plan]
  cases Table.decode uri with
  | error e' => simp [Except.map]
  | ok t => simp [Except.map]

/-- **The request of a table, and who can learn the secret.**  A request fails exactly if its table
cannot be read, with the same error; otherwise it asks the host for the table.  A host that is not
trusted is asked the same in any two environments that differ in the secret only, if the secret has
a variable of its own. -/
theorem plan_asks (auth : Auth) (env : Environment) (uri host : Text) (https : Option Bool) :
    (∀ e, plan auth env uri host (https != some false) = .error e ↔ Table.decode uri = .error e) ∧
      (∀ t, Table.decode uri = .ok t →
        ∃ r, plan auth env uri host (https != some false) = .ok r ∧
          AsksFor auth env (if https = some false then "http".toList else "https".toList)
            (bareHost host) t r) ∧
      ∀ env', Environment.AgreeExcept auth.tokenVariable env env' →
        auth.tokenVariable ≠ auth.domainsVariable → auth.trusts env (bareHost host) = false →
          plan auth env' uri host (https != some false) =
            plan auth env uri host (https != some false) := by
  refine ⟨fun e => plan_eq_error_iff, fun t ht => ?_, fun env' hagree hown hnot => ?_⟩
  · exact ⟨_, by rw [plan, ht]; rfl, ofTable_asksFor auth env t (bareHost host) https⟩
  · have hnot' : auth.trusts env' (bareHost host) = false := by
      rw [← Auth.trusts_congr hagree hown, hnot]
    have hsame (t : Table) : ofTable auth env' t (bareHost host) (https != some false) =
        ofTable auth env t (bareHost host) (https != some false) := by
      simp only [ofTable, authorize_of_not_trusts (Or.inl hnot),
        authorize_of_not_trusts (Or.inl hnot')]
    simp only [plan, hsame]

/-- An environment with a secret and one trusted host. -/
def secretEnvironment : Environment := fun name =>
  if name = "CL_AUTH_TOKEN".toList then some "x-key=secret".toList
  else if name = "CL_WHITE_LISTED_DOMAINS".toList then some "api.example.com".toList
  else none

/-- The same environment without the secret. -/
def openEnvironment : Environment := fun name =>
  if name = "CL_WHITE_LISTED_DOMAINS".toList then some "api.example.com".toList else none

/-- The secret goes to the trusted host.  A path that looks like the end of that host makes no other
host a trusted one. -/
theorem plan_asks_twoHosts :
    let uri := "@api.example.com?header=k:v".toList
    let stranger := " a.b/ ".toList
    let trusted := "api.example.com//".toList
    let headers := Dictionary.empty.insert "k".toList "v".toList
    (∃ r, plan Auth.default secretEnvironment uri stranger true = .ok r ∧
        (∃ path, r.url = "https://a.b".toList ++ path ∧ (path = [] ∨ ∃ rest, path = '/' :: rest)) ∧
        r.headers = headers) ∧
      plan Auth.default openEnvironment uri stranger true =
        plan Auth.default secretEnvironment uri stranger true ∧
      ∃ r, plan Auth.default secretEnvironment uri trusted true = .ok r ∧
        r.headers = headers.insert "x-key".toList "secret".toList := by
  intro uri stranger trusted headers
  obtain ⟨-, hasks, hsame⟩ := plan_asks Auth.default secretEnvironment uri stranger none
  obtain ⟨-, hasksTrusted, -⟩ := plan_asks Auth.default secretEnvironment uri trusted none
  have hdecode : Table.decode uri =
      .ok ⟨"@api.example.com".toList, Params.empty, headers, none, Table.defaultFragment⟩ := by
    decide +kernel
  have hhost : bareHost stranger = "a.b".toList := by decide
  have hstranger : Auth.default.trusts secretEnvironment (bareHost stranger) = false := by
    decide +kernel
  have htrusted : Auth.default.trusts secretEnvironment (bareHost trusted) = true := by
    decide +kernel
  have htoken : Auth.default.token? secretEnvironment =
      some ("x-key".toList, "secret".toList) :=
    Auth.token?_eq_some_iff.2 ⟨"x-key".toList, by decide +kernel, by decide, by decide, by decide⟩
  have hagree : Environment.AgreeExcept Auth.default.tokenVariable secretEnvironment
      openEnvironment := fun name hname => if_neg hname
  obtain ⟨r, hr, hfor⟩ := hasks _ hdecode
  obtain ⟨path, hurl, hpath, -⟩ := hfor.url
  refine ⟨⟨r, hr, ⟨path, ?_, hpath⟩, hfor.unauthorized (Or.inl hstranger)⟩,
    hsame openEnvironment hagree (by decide) hstranger, ?_⟩
  · rw [hurl, hhost]
    rfl
  · obtain ⟨r, hr, hfor⟩ := hasksTrusted _ hdecode
    exact ⟨r, hr, hfor.authorized _ _ htrusted htoken⟩

end Request

end Pushdown
