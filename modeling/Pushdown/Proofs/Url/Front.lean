/-
**What stands in front of the query of a URL.**

Scheme, host and path of an absolute URL are read from the text in front of the first `?` or `#`.
Reading them stops there whatever follows, so the path of a URL does not depend on its query and
fragment, and neither does whether it has a path at all.  The only exception is a text that ends in
`@`: whether a host is missing there shows only once something follows.

Main definitions:

* `Url.Plain` — a text without `?` and `#`;
* `Url.IsRest` — a query and a fragment, a fragment, or nothing;
* `Url.readCleaned` — reading a text that is cleaned already.

Main results:

* `Url.skipAuthority_append`, `Url.parseFile_append`, `Url.parseBehindScheme_append` — the path is
  read in front of any rest;
* `Url.readCleaned_append` — **the path of a URL does not depend on its query and fragment**.
-/

import Pushdown.Proofs.Text.Splitting
import Pushdown.Url.Basic

set_option autoImplicit false

namespace Pushdown

namespace Url

/-- A text without `?` and `#`. -/
def Plain (a : Text) : Prop := ∀ c ∈ a, c ≠ '?' ∧ c ≠ '#'

/-- What may follow a path: nothing, or a text that starts with `?` or `#`. -/
def IsRest (r : Text) : Prop := ∀ c ∈ r.head?, c = '?' ∨ c = '#'

theorem isRest_nil : IsRest [] := by
  intro c hc
  exact absurd hc (by simp)

theorem Plain.tail {c : Char} {a : Text} (h : Plain (c :: a)) : Plain a :=
  fun d hd => h d (List.mem_cons_of_mem _ hd)

theorem Plain.mono {a b : Text} (h : Plain b) (hsub : ∀ c ∈ a, c ∈ b) : Plain a :=
  fun c hc => h c (hsub c hc)

/-- A class of characters without `?` and `#`. -/
theorem IsRest.not_of_class {p : Char → Bool} (hp : p '?' = false ∧ p '#' = false) {r : Text}
    (hr : IsRest r) : ∀ c ∈ r.head?, p c = false := by
  intro c hc
  rcases hr c hc with rfl | rfl
  · exact hp.1
  · exact hp.2

theorem endsAuthority_of_rest {kind : SchemeKind} {c : Char} (h : c = '?' ∨ c = '#') :
    kind.endsAuthority c = true := by
  rcases h with rfl | rfl <;> simp [SchemeKind.endsAuthority]

theorem isSlash_of_rest {kind : SchemeKind} {c : Char} (h : c = '?' ∨ c = '#') :
    kind.isSlash c = false := by
  rcases h with rfl | rfl <;> simp [SchemeKind.isSlash]

/-- The text does not start with a slash. -/
def NoSlash (kind : SchemeKind) (s : Text) : Prop := ∀ c ∈ s.head?, kind.isSlash c = false

theorem NoSlash.append {kind : SchemeKind} {a r : Text} (ha : NoSlash kind a) (hr : IsRest r) :
    NoSlash kind (a ++ r) := by
  cases a with
  | nil => exact fun c hc => isSlash_of_rest (hr c hc)
  | cons d a => exact fun c hc => ha c hc

/-! ### Paths -/

theorem splitPath_append {a r : Text} (ha : Plain a) (hr : IsRest r) :
    splitPath (a ++ r) = (a, r) := by
  have hclass : ∀ c ∈ r.head?, (c != '?' && c != '#') = false :=
    hr.not_of_class ⟨by decide, by decide⟩
  have hall : ∀ c ∈ a, (c != '?' && c != '#') = true := by
    intro c hc
    simp [(ha c hc).1, (ha c hc).2]
  have htake : r.takeWhile (fun c => c != '?' && c != '#') = [] ∧
      r.dropWhile (fun c => c != '?' && c != '#') = r :=
    Text.takeWhile_append_of_head hclass []
  rw [splitPath, List.takeWhile_append_of_pos hall, List.dropWhile_append_of_pos hall, htake.1,
    htake.2, List.append_nil]

theorem hierarchical_append {a r : Text} (ha : Plain a) (hr : IsRest r) (kind : SchemeKind) :
    hierarchical kind (a ++ r) =
      withRest kind (Path.normalize (kind == .file) kind.isSlash a) r := by
  rw [hierarchical, splitPath_append ha hr]

/-- The path behind a host is read in front of any rest. -/
theorem behindAuthority_append {a : Text} (ha : Plain a) (kind : SchemeKind) :
    ∃ path, ∀ r, IsRest r → behindAuthority kind (a ++ r) = withRest kind path r := by
  cases a with
  | nil =>
      refine ⟨if kind = .other then [] else Path.normalize (kind == .file) kind.isSlash [],
        fun r hr => ?_⟩
      cases r with
      | nil =>
          by_cases hkind : kind = .other
          · simp [behindAuthority, hkind, withRest]
          · have h := hierarchical_append (a := []) (r := []) ha isRest_nil kind
            simpa [behindAuthority, hkind] using h
      | cons c r =>
          have hc := hr c rfl
          by_cases hkind : kind = .other
          · simp [behindAuthority, isSlash_of_rest hc, hkind, hc]
          · have h := hierarchical_append (a := []) ha hr kind
            simpa [behindAuthority, isSlash_of_rest hc, hkind] using h
  | cons c a =>
      by_cases hslash : kind.isSlash c = true
      · refine ⟨Path.normalize (kind == .file) kind.isSlash a, fun r hr => ?_⟩
        rw [← hierarchical_append ha.tail hr kind]
        simp [behindAuthority, hslash]
      · refine ⟨Path.normalize (kind == .file) kind.isSlash (c :: a), fun r hr => ?_⟩
        have hc := ha c List.mem_cons_self
        rw [← hierarchical_append ha hr kind]
        simp [behindAuthority, hslash, hc.1, hc.2]

/-! ### Hosts -/

theorem takeHost_append {r : Text} (hr : IsRest r) (kind : SchemeKind) (inBrackets : Bool)
    (a : Text) :
    takeHost kind inBrackets (a ++ r) =
      ((takeHost kind inBrackets a).1, (takeHost kind inBrackets a).2 ++ r) := by
  induction a generalizing inBrackets with
  | nil =>
      cases r with
      | nil => rfl
      | cons c r => simp [takeHost, endsAuthority_of_rest (hr c rfl)]
  | cons c a ih =>
      rw [List.cons_append, takeHost, takeHost]
      split
      · rfl
      · simp only [ih]

/-- What is left behind a host belongs to the text. -/
theorem mem_of_takeHost {kind : SchemeKind} {inBrackets : Bool} {a : Text} {c : Char}
    (h : c ∈ (takeHost kind inBrackets a).2) : c ∈ a := by
  induction a generalizing inBrackets with
  | nil => exact h
  | cons d a ih =>
      rw [takeHost] at h
      split at h
      · exact h
      · exact List.mem_cons_of_mem _ (ih h)

theorem skipPort_append {r : Text} (hr : IsRest r) (a : Text) :
    skipPort (a ++ r) = (skipPort a).map (· ++ r) := by
  obtain ⟨htake, hdrop⟩ :=
    Text.takeWhile_append_of_head (hr.not_of_class (p := isDigit) ⟨by decide, by decide⟩) a
  simp only [skipPort, htake, hdrop]
  split
  · rfl
  · cases a.dropWhile isDigit with
    | nil =>
        cases r with
        | nil => rfl
        | cons c r => simp [endsAuthority_of_rest (hr c rfl), Except.map]
    | cons c rest =>
        simp only [List.cons_append]
        split <;> rfl

theorem mem_of_skipPort {a v : Text} {c : Char} (h : skipPort a = .ok v) (hc : c ∈ v) :
    c ∈ a := by
  unfold skipPort at h
  simp only at h
  split at h
  · exact absurd h (by simp)
  · split at h
    · rw [← Except.ok.inj h] at hc
      exact absurd hc List.not_mem_nil
    · split at h
      · rw [← Except.ok.inj h] at hc
        exact (List.dropWhile_sublist isDigit).subset hc
      · exact absurd h (by simp)

/-- The two sides of the last `@` make up the text. -/
theorem eq_append_of_splitLastAt? {a user host : Text} (h : splitLastAt? a = some (user, host)) :
    a = user ++ '@' :: host := by
  induction a generalizing user with
  | nil => exact absurd h (by simp [splitLastAt?])
  | cons c a ih =>
      rw [splitLastAt?] at h
      split at h
      · next user' host' hrec =>
          obtain ⟨rfl, rfl⟩ := Prod.mk.inj (Option.some.inj h)
          rw [ih hrec]
          rfl
      · split at h
        · next hc =>
            obtain ⟨rfl, rfl⟩ := Prod.mk.inj (Option.some.inj h)
            rw [hc]
            rfl
        · exact absurd h (by simp)

/-- The rest behind a host and a port, if there is one. -/
def behindHost (user host : Text) : Text → Except Error Text
  | ':' :: port => if host.isEmpty then .error .emptyHost else skipPort port
  | rest =>
      if host.isEmpty && !user.isEmpty && user != [':'] then .error .emptyHost
      else .ok rest

theorem behindHost_of_head {s : Text} (h : ∀ c ∈ s.head?, c ≠ ':') (user host : Text) :
    behindHost user host s =
      if host.isEmpty && !user.isEmpty && user != [':'] then .error .emptyHost else .ok s := by
  cases s with
  | nil => rfl
  | cons c s =>
      unfold behindHost
      split
      · next heq => exact absurd (List.cons.inj heq).1 (h c rfl)
      · rfl

theorem behindHost_append {r : Text} (hr : IsRest r) (user host s : Text) :
    behindHost user host (s ++ r) = (behindHost user host s).map (· ++ r) := by
  have hcolon : ∀ c ∈ r.head?, c ≠ ':' := by
    intro c hc
    rcases hr c hc with rfl | rfl <;> decide
  cases s with
  | nil =>
      rw [List.nil_append, behindHost_of_head hcolon, behindHost_of_head (by simp)]
      split <;> rfl
  | cons c s =>
      by_cases hc : c = ':'
      · subst hc
        rw [List.cons_append, behindHost, behindHost, skipPort_append hr]
        split <;> rfl
      · rw [List.cons_append, behindHost_of_head (by simpa using hc),
          behindHost_of_head (by simpa using hc)]
        split <;> rfl

theorem mem_of_behindHost {user host s v : Text} {c : Char}
    (h : behindHost user host s = .ok v) (hc : c ∈ v) : c ∈ s := by
  unfold behindHost at h
  split at h
  · split at h
    · exact absurd h (by simp)
    · exact List.mem_cons_of_mem _ (mem_of_skipPort h hc)
  · split at h
    · exact absurd h (by simp)
    · rw [Except.ok.inj h]
      exact hc

/-- The rest behind host and port, the name in front of the host being split off. -/
def skipHost (kind : SchemeKind) (user s : Text) : Except Error Text :=
  let split := takeHost kind false s
  if kind = .web ∧ split.1 = [] then .error .emptyHost
  else
    match if kind = .web then parseHost split.1 else parseOpaqueHost split.1 with
    | .error e => .error e
    | .ok host => behindHost user host split.2

theorem skipHost_append {r : Text} (hr : IsRest r) (kind : SchemeKind) (user s : Text) :
    skipHost kind user (s ++ r) = (skipHost kind user s).map (· ++ r) := by
  simp only [skipHost, takeHost_append hr]
  split
  · rfl
  · split
    · rfl
    · exact behindHost_append hr user _ _

theorem mem_of_skipHost {kind : SchemeKind} {user s v : Text} {c : Char}
    (h : skipHost kind user s = .ok v) (hc : c ∈ v) : c ∈ s := by
  unfold skipHost at h
  simp only at h
  split at h
  · exact absurd h (by simp)
  · split at h
    · exact absurd h (by simp)
    · exact mem_of_takeHost (mem_of_behindHost h hc)

/-- What stands in front of the last `@` of an authority and behind it. -/
def userAndHost (authority : Text) : Text × Text := (splitLastAt? authority).getD ([], authority)

theorem mem_of_userAndHost {authority : Text} {c : Char} (h : c ∈ (userAndHost authority).2) :
    c ∈ authority := by
  unfold userAndHost at h
  cases hsplit : splitLastAt? authority with
  | none =>
      rw [hsplit] at h
      exact h
  | some halves =>
      rw [hsplit] at h
      rw [eq_append_of_splitLastAt? hsplit]
      exact List.mem_append_right _ (List.mem_cons_of_mem _ h)

theorem skipAuthority_eq (kind : SchemeKind) (s : Text) :
    skipAuthority kind s =
      let authority := s.takeWhile fun c => !kind.endsAuthority c
      let rest := s.dropWhile fun c => !kind.endsAuthority c
      if splitLastAt? authority = some ([], []) ∧ rest ≠ [] then .error .emptyHost
      else skipHost kind (userAndHost authority).1 ((userAndHost authority).2 ++ rest) := by
  have hcondition (found : Option (Text × Text)) (authority rest : Text) :
      (found.isSome && (found.getD ([], authority)).1.isEmpty &&
        (found.getD ([], authority)).2.isEmpty && !rest.isEmpty) = true ↔
          found = some ([], []) ∧ rest ≠ [] := by
    rcases found with _ | ⟨user, host⟩ <;> simp [and_assoc]
  simp only [skipAuthority, hcondition]
  rfl

/-- The rest behind an authority, whatever that rest is. -/
theorem skipAuthority_append {a : Text} (ha : Plain a) (kind : SchemeKind) :
    ∃ x : Except Error Text, (∀ v, x = .ok v → Plain v) ∧
      ∀ r, IsRest r → (r = [] → a.getLast? ≠ some '@') →
        skipAuthority kind (a ++ r) = x.map (· ++ r) := by
  have hends : ∀ r, IsRest r → ∀ c ∈ r.head?, (!kind.endsAuthority c) = false := by
    intro r hr c hc
    rw [endsAuthority_of_rest (hr c hc)]
    rfl
  have hcut := fun r hr => Text.takeWhile_append_of_head (hends r hr) a
  by_cases hat : splitLastAt? (a.takeWhile fun c => !kind.endsAuthority c) = some ([], [])
  · refine ⟨.error .emptyHost, fun v hv => absurd hv (by simp), fun r hr hlast => ?_⟩
    rw [skipAuthority_eq]
    simp only [(hcut r hr).1, (hcut r hr).2]
    rw [if_pos]
    · rfl
    · refine ⟨hat, fun hnil => ?_⟩
      -- The text is nothing but the `@`, and nothing follows.
      obtain ⟨hafter, hr'⟩ := List.append_eq_nil_iff.1 hnil
      have hwhole := List.takeWhile_append_dropWhile (p := fun c => !kind.endsAuthority c) (l := a)
      rw [hafter, List.append_nil, eq_append_of_splitLastAt? hat] at hwhole
      exact hlast hr' (hwhole ▸ rfl)
  · refine ⟨skipHost kind (userAndHost (a.takeWhile fun c => !kind.endsAuthority c)).1
      ((userAndHost (a.takeWhile fun c => !kind.endsAuthority c)).2 ++
        a.dropWhile fun c => !kind.endsAuthority c), fun v hv c hc => ?_, fun r hr _ => ?_⟩
    · rcases List.mem_append.1 (mem_of_skipHost hv hc) with hc | hc
      · exact ha c ((List.takeWhile_sublist _).subset (mem_of_userAndHost hc))
      · exact ha c ((List.dropWhile_sublist _).subset hc)
    · rw [skipAuthority_eq]
      simp only [(hcut r hr).1, (hcut r hr).2]
      rw [if_neg fun h => hat h.1, ← List.append_assoc, skipHost_append hr]

/-! ### Files -/

/-- Reads what follows the two slashes in front of the host of a file. -/
def parseFileHost (s : Text) : Except Error Url :=
  let host := s.takeWhile fun c => !SchemeKind.file.endsAuthority c
  let after := s.dropWhile fun c => !SchemeKind.file.endsAuthority c
  if isDriveLetter host then .ok (hierarchical .file s)
  else if host.isEmpty then .ok (hierarchical .file after)
  else
    match parseHost host with
    | .error e => .error e
    | .ok _ => .ok (behindAuthority .file after)

theorem parseFile_of_noSlash {s : Text} (h : NoSlash .file s) :
    parseFile s = .ok (hierarchical .file s) := by
  cases s with
  | nil => rfl
  | cons c s => simp [parseFile, h c rfl]

theorem parseFile_slash {a : Char} {s : Text} (ha : SchemeKind.file.isSlash a = true)
    (h : NoSlash .file s) : parseFile (a :: s) = .ok (hierarchical .file s) := by
  cases s with
  | nil => simp [parseFile, ha]
  | cons c s => simp [parseFile, ha, h c rfl]

theorem parseFile_host {a b : Char} (ha : SchemeKind.file.isSlash a = true)
    (hb : SchemeKind.file.isSlash b = true) (s : Text) :
    parseFile (a :: b :: s) = parseFileHost s := by
  simp only [parseFile, ha, hb, if_true]
  rfl

theorem parseFileHost_append {a : Text} (ha : Plain a) :
    ∃ x : Except Error Text, ∀ r, IsRest r →
      parseFileHost (a ++ r) = x.map fun path => withRest .file path r := by
  have hcut : ∀ r, IsRest r → _ := fun r hr =>
    Text.takeWhile_append_of_head (p := fun c => !SchemeKind.file.endsAuthority c) (r := r)
      (fun c hc => by rw [endsAuthority_of_rest (hr c hc)]; rfl) a
  have hafter : Plain (a.dropWhile fun c => !SchemeKind.file.endsAuthority c) :=
    ha.mono fun c hc => (List.dropWhile_sublist _).subset hc
  obtain ⟨path, hpath⟩ := behindAuthority_append hafter .file
  by_cases hdrive :
      isDriveLetter (a.takeWhile fun c => !SchemeKind.file.endsAuthority c) = true
  · refine ⟨.ok (Path.normalize true SchemeKind.file.isSlash a), fun r hr => ?_⟩
    simp only [parseFileHost, (hcut r hr).1, hdrive, if_true, hierarchical_append ha hr]
    rfl
  · by_cases hempty : (a.takeWhile fun c => !SchemeKind.file.endsAuthority c).isEmpty = true
    · refine ⟨.ok (Path.normalize true SchemeKind.file.isSlash
        (a.dropWhile fun c => !SchemeKind.file.endsAuthority c)), fun r hr => ?_⟩
      simp only [parseFileHost, (hcut r hr).1, (hcut r hr).2, hdrive, if_false, hempty, if_true,
        hierarchical_append hafter hr, Bool.false_eq_true]
      rfl
    · refine ⟨(parseHost (a.takeWhile fun c => !SchemeKind.file.endsAuthority c)).map
        fun _ => path, fun r hr => ?_⟩
      simp only [parseFileHost, (hcut r hr).1, (hcut r hr).2, hdrive, if_false, hempty,
        hpath r hr, Bool.false_eq_true]
      cases parseHost (a.takeWhile fun c => !SchemeKind.file.endsAuthority c) <;> rfl

/-- The path of a file is read in front of any rest. -/
theorem parseFile_append {a : Text} (ha : Plain a) :
    ∃ x : Except Error Text, ∀ r, IsRest r →
      parseFile (a ++ r) = x.map fun path => withRest .file path r := by
  by_cases hslash : NoSlash .file a
  · refine ⟨.ok (Path.normalize true SchemeKind.file.isSlash a), fun r hr => ?_⟩
    rw [parseFile_of_noSlash (hslash.append hr), hierarchical_append ha hr]
    rfl
  · cases a with
    | nil => exact absurd (fun c hc => absurd hc (by simp)) hslash
    | cons a₁ a =>
        have ha₁ : SchemeKind.file.isSlash a₁ = true := by simpa [NoSlash] using hslash
        by_cases hslash' : NoSlash .file a
        · refine ⟨.ok (Path.normalize true SchemeKind.file.isSlash a), fun r hr => ?_⟩
          rw [List.cons_append, parseFile_slash ha₁ (hslash'.append hr),
            hierarchical_append ha.tail hr]
          rfl
        · cases a with
          | nil => exact absurd (fun c hc => absurd hc (by simp)) hslash'
          | cons a₂ a =>
              have ha₂ : SchemeKind.file.isSlash a₂ = true := by simpa [NoSlash] using hslash'
              obtain ⟨x, hx⟩ := parseFileHost_append ha.tail.tail
              refine ⟨x, fun r hr => ?_⟩
              rw [List.cons_append, List.cons_append, parseFile_host ha₁ ha₂]
              exact hx r hr

/-! ### Schemes -/

/-- The path behind an authority is read in front of any rest. -/
theorem authority_append {a : Text} (ha : Plain a) (kind : SchemeKind) :
    ∃ x : Except Error Text, ∀ r, IsRest r → (r = [] → a.getLast? ≠ some '@') →
      (skipAuthority kind (a ++ r)).map (behindAuthority kind) =
        x.map fun path => withRest kind path r := by
  obtain ⟨x, hplain, hx⟩ := skipAuthority_append ha kind
  cases x with
  | error e =>
      refine ⟨.error e, fun r hr hlast => ?_⟩
      rw [hx r hr hlast]
      rfl
  | ok v =>
      obtain ⟨path, hpath⟩ := behindAuthority_append (hplain v rfl) kind
      refine ⟨.ok path, fun r hr hlast => ?_⟩
      rw [hx r hr hlast]
      exact congrArg Except.ok (hpath r hr)

theorem parse_slash {s : Text} (h : NoSlash .other s) :
    parseBehindScheme .other ('/' :: s) = .ok (hierarchical .other s) := by
  cases s with
  | nil => rfl
  | cons c s =>
      have hc : c ≠ '/' := by simpa [SchemeKind.isSlash] using h c rfl
      unfold parseBehindScheme
      simp only
      split
      · next heq => exact absurd (List.cons.inj (List.cons.inj heq).2).1 hc
      · next heq => rw [(List.cons.inj heq).2]
      · next heq => exact absurd rfl (heq _)

theorem parse_noSlash {s : Text} (h : NoSlash .other s) :
    parseBehindScheme .other s =
      .ok (withRest .other (encodeWith (fun _ => false) (splitPath s).1) (splitPath s).2) := by
  cases s with
  | nil => rfl
  | cons c s =>
      have hc : c ≠ '/' := by simpa [SchemeKind.isSlash] using h c rfl
      unfold parseBehindScheme
      simp only
      split
      · next heq => exact absurd (List.cons.inj heq).1 hc
      · next heq => exact absurd (List.cons.inj heq).1 hc
      · rfl

theorem getLast?_of_suffix {a b : Text} {c : Char} (h : b <:+ a) (hb : b.getLast? = some c) :
    a.getLast? = some c := by
  obtain ⟨front, rfl⟩ := h
  rw [List.getLast?_append, hb]
  rfl

/-- What follows a scheme has a path that is read in front of any rest. -/
theorem parseBehindScheme_append {a : Text} (ha : Plain a) (kind : SchemeKind) :
    ∃ x : Except Error Text, ∀ r, IsRest r → (r = [] → a.getLast? ≠ some '@') →
      parseBehindScheme kind (a ++ r) = x.map fun path => withRest kind path r := by
  cases kind with
  | file =>
      obtain ⟨x, hx⟩ := parseFile_append ha
      exact ⟨x, fun r hr _ => hx r hr⟩
  | web =>
      have hsuffix := List.dropWhile_suffix (l := a) SchemeKind.web.isSlash
      obtain ⟨x, hx⟩ := authority_append (ha.mono fun c hc => hsuffix.subset hc) .web
      refine ⟨x, fun r hr hlast => ?_⟩
      have hcut := Text.takeWhile_append_of_head (p := SchemeKind.web.isSlash) (r := r)
        (fun c hc => isSlash_of_rest (hr c hc)) a
      rw [parseBehindScheme, hcut.2]
      exact hx r hr fun hnil hat => hlast hnil (getLast?_of_suffix hsuffix hat)
  | other =>
      by_cases hslash : NoSlash .other a
      · refine ⟨.ok (encodeWith (fun _ => false) a), fun r hr _ => ?_⟩
        rw [parse_noSlash (hslash.append hr), splitPath_append ha hr]
        rfl
      · cases a with
        | nil => exact absurd (fun c hc => absurd hc (by simp)) hslash
        | cons a₁ a =>
            have ha₁ : a₁ = '/' := by simpa [NoSlash, SchemeKind.isSlash] using hslash
            subst ha₁
            by_cases hslash' : NoSlash .other a
            · refine ⟨.ok (Path.normalize false SchemeKind.other.isSlash a), fun r hr _ => ?_⟩
              rw [List.cons_append, parse_slash (hslash'.append hr),
                hierarchical_append ha.tail hr]
              rfl
            · cases a with
              | nil => exact absurd (fun c hc => absurd hc (by simp)) hslash'
              | cons a₂ a =>
                  have ha₂ : a₂ = '/' := by simpa [NoSlash, SchemeKind.isSlash] using hslash'
                  subst ha₂
                  obtain ⟨x, hx⟩ := authority_append ha.tail.tail .other
                  refine ⟨x, fun r hr hlast => ?_⟩
                  refine hx r hr fun hnil hat => hlast hnil ?_
                  exact getLast?_of_suffix ⟨['/', '/'], rfl⟩ hat

/-- The scheme in front of a run of scheme characters and what follows it. -/
theorem splitScheme?_append {r : Text} (hr : IsRest r) (a : Text) :
    splitScheme? (a ++ r) = (splitScheme? a).map fun parts => (parts.1, parts.2 ++ r) := by
  obtain ⟨htake, hdrop⟩ :=
    Text.takeWhile_append_of_head (hr.not_of_class (p := isSchemeChar) ⟨by decide, by decide⟩) a
  have hcolon : ∀ c ∈ r.head?, c ≠ ':' := by
    intro c hc
    rcases hr c hc with rfl | rfl <;> decide
  simp only [splitScheme?, htake, hdrop]
  generalize a.takeWhile isSchemeChar = front
  generalize a.dropWhile isSchemeChar = behind
  cases front with
  | nil => rfl
  | cons c scheme =>
      cases behind with
      | nil =>
          cases r with
          | nil => rfl
          | cons d r =>
              simp only [List.nil_append]
              split
              · next heq => exact absurd (List.cons.inj heq).1 (hcolon d rfl)
              · rfl
      | cons d behind =>
          by_cases hd : d = ':'
          · subst hd
            simp only [List.cons_append]
            split <;> rfl
          · simp only [List.cons_append]
            split
            · next heq => exact absurd (List.cons.inj heq).1 hd
            · split
              · next heq => exact absurd (List.cons.inj heq).1 hd
              · rfl

/-- What follows a scheme ends the text, behind the colon of the scheme. -/
theorem colon_suffix_of_splitScheme? {a scheme rest : Text}
    (h : splitScheme? a = some (scheme, rest)) : ':' :: rest <:+ a := by
  unfold splitScheme? at h
  split at h
  · next c front behind hfront hbehind =>
      split at h
      · obtain ⟨-, rfl⟩ := Prod.mk.inj (Option.some.inj h)
        exact hbehind ▸ List.dropWhile_suffix isSchemeChar
      · exact absurd h (by simp)
  · exact absurd h (by simp)

theorem suffix_of_splitScheme? {a scheme rest : Text} (h : splitScheme? a = some (scheme, rest)) :
    rest <:+ a := (List.suffix_cons ':' rest).trans (colon_suffix_of_splitScheme? h)

/-! ### Cleaned texts -/

/-- Reads a text that is cleaned already. -/
def readCleaned (s : Text) : Except Error Url :=
  match splitScheme? s with
  | none => .error .relative
  | some (scheme, rest) => parseBehindScheme (SchemeKind.of scheme) rest

theorem parse_eq_readCleaned (s : Text) : parse s = readCleaned (cleaned s) := rfl

/-- **The front of a URL.**  Kind and path of a URL are read from what stands in front of its query
and fragment. -/
theorem readCleaned_append {a : Text} (ha : Plain a) :
    ∃ x : Except Error (SchemeKind × Text), ∀ r, IsRest r → (r = [] → a.getLast? ≠ some '@') →
      readCleaned (a ++ r) = x.map fun front => withRest front.1 front.2 r := by
  cases hscheme : splitScheme? a with
  | none =>
      refine ⟨.error .relative, fun r hr _ => ?_⟩
      rw [readCleaned, splitScheme?_append hr, hscheme]
      rfl
  | some parts =>
      obtain ⟨scheme, rest⟩ := parts
      have hsuffix := suffix_of_splitScheme? hscheme
      obtain ⟨x, hx⟩ := parseBehindScheme_append (ha.mono fun c hc => hsuffix.subset hc)
        (SchemeKind.of scheme)
      refine ⟨x.map fun path => (SchemeKind.of scheme, path), fun r hr hlast => ?_⟩
      rw [readCleaned, splitScheme?_append hr, hscheme]
      simp only [Option.map_some]
      rw [hx r hr fun hnil hat => hlast hnil (getLast?_of_suffix hsuffix hat)]
      cases x <;> rfl

end Url

end Pushdown
