/-
**Paths of URLs.**

The path that is read of an absolute URL is written without `?` and `#`.  Behind a host or a slash
it is hierarchical: it starts with a slash, if there is anything of it.  Otherwise it is what
follows the scheme, with some characters escaped.  In both cases it is not the text that the URL
starts with, since a scheme stands in front of it.

Main definitions:

* `Url.Rooted` — a path that starts with a slash, if there is anything of it.

Main results:

* `Url.parseBehindScheme_path` — the two kinds of paths;
* `Url.plain_path_of_parse` — a path has no `?` and no `#`;
* `Url.path_ne_of_parse` — **the path of a URL is never what stands in front of its query**.
-/

import Pushdown.Proofs.Outcome
import Pushdown.Proofs.Url.Growth

set_option autoImplicit false

namespace Pushdown

namespace Url

/-! ### Escaped texts -/

/-- A character of an escaped text stands for itself or belongs to an escape. -/
theorem mem_encodeWith {also : Char → Bool} {s : Text} {c : Char} (h : c ∈ encodeWith also s) :
    (c ∈ s ∧ 0x20 ≤ c.toNat ∧ c.toNat ≤ 0x7E ∧ also c = false) ∨ Percent.isWritten c = true := by
  obtain ⟨d, hd, hcd⟩ := List.mem_flatMap.1 h
  split at hcd
  · exact Or.inr (Percent.isWritten_escapeChar d c hcd)
  · next hself =>
      obtain rfl := List.mem_singleton.1 hcd
      simp only [Bool.or_eq_true, decide_eq_true_eq, not_or, Nat.not_lt, Bool.not_eq_true] at hself
      exact Or.inl ⟨hd, hself.1.1, hself.1.2, hself.2⟩

/-- An escaped text is printable. -/
theorem printable_encodeWith {also : Char → Bool} {s : Text} :
    ∀ c ∈ encodeWith also s, 0x20 ≤ c.toNat ∧ c.toNat ≤ 0x7E := by
  intro c hc
  rcases mem_encodeWith hc with ⟨-, hlow, hhigh, -⟩ | hwritten
  · exact ⟨hlow, hhigh⟩
  · have hbounds := Table.isQueryChar_bounds (Table.isQueryChar_of_isWritten hwritten)
    omega

theorem plain_encodeWith {also : Char → Bool} {s : Text}
    (h : ∀ c ∈ s, also c = false → c ≠ '?' ∧ c ≠ '#') : Plain (encodeWith also s) := by
  intro c hc
  rcases mem_encodeWith hc with ⟨hs, -, -, halso⟩ | hwritten
  · exact h c hs halso
  · constructor
    · rintro rfl
      exact absurd hwritten (by decide)
    · rintro rfl
      exact absurd hwritten (by decide)

/-- A text behind a slash or a host is written without `?` and `#`. -/
theorem plain_encodeWith_inPathSet (s : Text) : Plain (encodeWith inPathSet s) := by
  refine plain_encodeWith fun c _ halso => ⟨?_, ?_⟩
  · rintro rfl
    exact absurd halso (by decide)
  · rintro rfl
    exact absurd halso (by decide)

theorem plain_splitPath (s : Text) : Plain (splitPath s).1 := by
  intro c hc
  have h := List.all_eq_true.1 List.all_takeWhile c hc
  simpa using h

/-! ### Hierarchical paths -/

/-- A path that starts with a slash, if there is anything of it. -/
def Rooted (path : Text) : Prop := ∀ c ∈ path.head?, c = '/'

/-- A segment `..` adds nothing to the segments before it. -/
theorem removeLast_sublist (done : List Text) : (Path.removeLast done).Sublist done := by
  cases done with
  | nil => exact List.Sublist.refl []
  | cons last before =>
      simp only [Path.removeLast]
      split
      · exact List.Sublist.refl _
      · exact List.sublist_cons_self last before

/-- Resolving a path keeps its segments without `?` and `#`. -/
theorem plain_resolve {isFile : Bool} {done segments : List Text}
    (hdone : ∀ segment ∈ done, Plain segment) :
    ∀ segment ∈ Path.resolve isFile done segments, Plain segment := by
  have hnil : Plain [] := fun c hc => absurd hc List.not_mem_nil
  induction segments generalizing done with
  | nil => exact hdone
  | cons segment rest ih =>
      have hmaybe {shorter : List Text} (hshorter : ∀ segment ∈ shorter, Plain segment) :
          ∀ segment ∈ (if rest.isEmpty then [] :: shorter else shorter), Plain segment := by
        split
        · exact List.forall_mem_cons.2 ⟨hnil, hshorter⟩
        · exact hshorter
      have hwritten : Plain (encodeWith inPathSet segment) := plain_encodeWith_inPathSet segment
      unfold Path.resolve
      simp only
      split
      · exact ih (hmaybe fun x hx => hdone x ((removeLast_sublist done).subset hx))
      · split
        · exact ih (hmaybe hdone)
        · refine ih (List.forall_mem_cons.2 ⟨?_, hdone⟩)
          split
          · intro c hc
            rcases List.mem_append.1 hc with hc | hc
            · exact hwritten c (List.mem_of_mem_take hc)
            · rw [List.mem_singleton.1 hc]
              decide
          · exact hwritten

/-- A hierarchical path has no `?` and no `#`, and starts with a slash if there is anything of
it. -/
theorem normalize_path (isFile : Bool) (isSlash : Char → Bool) (path : Text) :
    Rooted (Path.normalize isFile isSlash path) ∧ Plain (Path.normalize isFile isSlash path) := by
  have hresolved : ∀ segment ∈ Path.resolve isFile [] (Text.splitWhere isSlash path),
      Plain segment := plain_resolve fun x hx => absurd hx List.not_mem_nil
  have hwritten (kept : List Text) (hkept : ∀ segment ∈ kept, Plain segment) :
      Rooted (kept.flatMap fun segment => '/' :: segment) ∧
        Plain (kept.flatMap fun segment => '/' :: segment) := by
    constructor
    · cases kept with
      | nil => exact fun c hc => absurd hc (by simp)
      | cons segment kept => exact fun c hc => (Option.some.inj hc).symm
    · intro c hc
      obtain ⟨segment, hsegment, hc⟩ := List.mem_flatMap.1 hc
      rcases List.mem_cons.1 hc with rfl | hc
      · decide
      · exact hkept segment hsegment c hc
  unfold Path.normalize
  simp only
  split
  · split
    · exact hwritten _ (List.forall_mem_cons.2
        ⟨fun c hc => absurd hc List.not_mem_nil, fun x hx => absurd hx List.not_mem_nil⟩)
    · next remaining _ hremaining =>
        refine hwritten _ fun x hx => hresolved x ?_
        exact List.mem_reverse.1 ((List.dropWhile_sublist _).subset hx)
  · exact hwritten _ fun x hx => hresolved x (List.mem_reverse.1 hx)

/-! ### Paths that are read -/

theorem withRest_path (kind : SchemeKind) (path rest : Text) :
    (withRest kind path rest).path = path := by
  unfold withRest
  split
  · simp only
    split <;> rfl
  · rfl
  · rfl

theorem hierarchical_path (kind : SchemeKind) (s : Text) :
    Rooted (hierarchical kind s).path ∧ Plain (hierarchical kind s).path := by
  rw [hierarchical, withRest_path]
  exact normalize_path _ _ _

theorem behindAuthority_path (kind : SchemeKind) (s : Text) :
    Rooted (behindAuthority kind s).path ∧ Plain (behindAuthority kind s).path := by
  have hnil : Rooted [] ∧ Plain [] :=
    ⟨fun c hc => absurd hc (by simp), fun c hc => absurd hc List.not_mem_nil⟩
  unfold behindAuthority
  split
  · split
    · exact hierarchical_path _ _
    · split
      · rw [withRest_path]
        exact hnil
      · exact hierarchical_path _ _
  · split
    · exact hnil
    · exact hierarchical_path _ _

theorem parseFile_path {s : Text} {url : Url} (h : parseFile s = .ok url) :
    Rooted url.path ∧ Plain url.path := by
  by_cases hslash : NoSlash .file s
  · rw [parseFile_of_noSlash hslash] at h
    exact Except.ok.inj h ▸ hierarchical_path _ _
  obtain ⟨a, s, rfl, ha⟩ : ∃ a t, s = a :: t ∧ SchemeKind.file.isSlash a = true := by
    cases s with
    | nil => exact absurd (fun c hc => absurd hc (by simp)) hslash
    | cons a s => exact ⟨a, s, rfl, by simpa [NoSlash] using hslash⟩
  by_cases hslash' : NoSlash .file s
  · rw [parseFile_slash ha hslash'] at h
    exact Except.ok.inj h ▸ hierarchical_path _ _
  obtain ⟨b, s, rfl, hb⟩ : ∃ b t, s = b :: t ∧ SchemeKind.file.isSlash b = true := by
    cases s with
    | nil => exact absurd (fun c hc => absurd hc (by simp)) hslash'
    | cons b s => exact ⟨b, s, rfl, by simpa [NoSlash] using hslash'⟩
  rw [parseFile_host ha hb] at h
  unfold parseFileHost at h
  simp only at h
  split at h
  · exact Except.ok.inj h ▸ hierarchical_path _ _
  split at h
  · exact Except.ok.inj h ▸ hierarchical_path _ _
  split at h
  · exact absurd h (by simp)
  · exact Except.ok.inj h ▸ behindAuthority_path _ _

theorem authority_path {kind : SchemeKind} {s : Text} {url : Url}
    (h : (skipAuthority kind s).map (behindAuthority kind) = .ok url) :
    Rooted url.path ∧ Plain url.path := by
  obtain ⟨rest, -, rfl⟩ := Outcome.exists_of_map_eq_ok h
  exact behindAuthority_path kind rest

/-- The two kinds of paths: a hierarchical one, and what follows the scheme. -/
theorem parseBehindScheme_path {kind : SchemeKind} {s : Text} {url : Url}
    (h : parseBehindScheme kind s = .ok url) :
    (Rooted url.path ∧ Plain url.path) ∨
      url.path = encodeWith (fun _ => false) (splitPath s).1 := by
  cases kind with
  | file => exact Or.inl (parseFile_path h)
  | web => exact Or.inl (authority_path h)
  | other =>
      unfold parseBehindScheme at h
      simp only at h
      split at h
      · exact Or.inl (authority_path h)
      · exact Or.inl (Except.ok.inj h ▸ hierarchical_path _ _)
      · refine Or.inr ?_
        rw [← Except.ok.inj h, withRest_path]

theorem exists_scheme_of_parse {s : Text} {url : Url} (h : parse s = .ok url) :
    ∃ scheme rest, splitScheme? (cleaned s) = some (scheme, rest) ∧
      parseBehindScheme (SchemeKind.of scheme) rest = .ok url := by
  unfold parse at h
  split at h
  · exact absurd h (by simp)
  · next scheme rest hscheme => exact ⟨scheme, rest, hscheme, h⟩

/-- A path has no `?` and no `#`. -/
theorem plain_path_of_parse {s : Text} {url : Url} (h : parse s = .ok url) : Plain url.path := by
  obtain ⟨scheme, rest, -, hread⟩ := exists_scheme_of_parse h
  rcases parseBehindScheme_path hread with hrooted | hpath
  · exact hrooted.2
  · rw [hpath]
    exact plain_encodeWith fun c hc _ => plain_splitPath rest c hc

/-! ### Paths and fronts -/

/-- A text with a scheme does not start with a slash. -/
theorem not_rooted_of_splitScheme? {a scheme rest : Text}
    (h : splitScheme? a = some (scheme, rest)) : ¬ Rooted a := by
  intro hrooted
  cases a with
  | nil => exact absurd h (by simp [splitScheme?])
  | cons c a =>
      obtain rfl := hrooted c rfl
      exact absurd h (by simp [splitScheme?, isSchemeChar, Percent.isAsciiAlphanum])

theorem rooted_visible_lead {a : Text} (h : Rooted a) : Rooted (visible (lead a)) := by
  cases a with
  | nil => exact fun c hc => absurd hc (by simp [lead, visible])
  | cons c a =>
      obtain rfl := h c rfl
      have hlead : lead ('/' :: a) = '/' :: a := rfl
      rw [hlead, visible_cons (by decide)]
      exact fun d hd => (Option.some.inj hd).symm

theorem Rooted.of_append {w a : Text} (hw : '/' ∉ w) (h : Rooted (w ++ a)) : Rooted a := by
  cases w with
  | nil => exact h
  | cons c w =>
      obtain rfl := h c rfl
      exact absurd List.mem_cons_self hw

/-- **The path of a URL is never what stands in front of its query**, nor is it that with something
else than a slash in front. -/
theorem path_ne_of_parse {w a q tail : Text} {url : Url} (hw : '/' ∉ w) (ha : Plain a)
    (hq : IsQuery q) (htail : IsTail tail) (hne : tail ≠ [])
    (h : parse (a ++ (q ++ tail)) = .ok url) : url.path ≠ w ++ a := by
  intro heq
  obtain ⟨scheme, rest, hscheme, hread⟩ := exists_scheme_of_parse h
  rw [cleaned_parts hq htail fun hnil => absurd hnil hne,
    splitScheme?_append (hq.visible.isRest htail.cleaned)] at hscheme
  obtain ⟨⟨scheme', inner⟩, hfront, hpair⟩ := Option.map_eq_some_iff.1 hscheme
  obtain ⟨-, rfl⟩ := Prod.mk.inj hpair
  have hsuffix := colon_suffix_of_splitScheme? hfront
  rcases parseBehindScheme_path hread with hrooted | hpath
  · exact not_rooted_of_splitScheme? hfront
      (rooted_visible_lead (Rooted.of_append hw (heq ▸ hrooted.1)))
  · -- What follows the scheme is shorter than the text in front and is printable like the path.
    have hsub : ∀ c ∈ inner, c ∈ a := fun c hc =>
      (List.dropWhile_sublist _).subset
        (List.mem_filter.1 (hsuffix.subset (List.mem_cons_of_mem _ hc))).1
    rw [splitPath_append (ha.mono hsub) (hq.visible.isRest htail.cleaned)] at hpath
    have hprintable : ∀ c ∈ inner, 0x20 ≤ c.toNat ∧ c.toNat ≤ 0x7E := fun c hc =>
      printable_encodeWith c (hpath ▸ heq ▸ List.mem_append_right w (hsub c hc))
    rw [encodeWith_eq_self fun c hc => ⟨hprintable c hc, rfl⟩] at hpath
    have hlength := hsuffix.length_le
    have hshorter : (visible (lead a)).length ≤ a.length :=
      Nat.le_trans (List.length_filter_le _ _) (List.dropWhile_sublist _).length_le
    have hwhole := congrArg List.length (hpath.symm.trans heq)
    rw [List.length_append] at hwhole
    rw [List.length_cons] at hlength
    omega

end Url

end Pushdown
