/-
**URLs whose path is written in its normal form.**

A path is its own normal form if every segment of it is made of characters that stand for themselves
and stands for a step down.  Behind `https` and a host of small letters such a path is read as it
stands, whatever query and fragment follow.

Main definitions:

* `Url.IsSegment` — unreserved characters that are no steps `.` and `..`;
* `Url.IsPath` — such segments, each behind a slash;
* `Url.secureFront` — what stands in front of the path.

Main results:

* `Url.Path.normalize_of_isPath` — such a path is its own normal form;
* `Url.parse_secure` — **behind a host it is read as it stands, in front of any query and
  fragment**.
-/

import Pushdown.Proofs.Url.Growth
import Pushdown.Proofs.Url.Host

set_option autoImplicit false

namespace Pushdown

namespace Url

/-! ### Segments -/

/-- A segment that stands for a step down and is written without escapes. -/
def IsSegment (segment : Text) : Prop :=
  segment ≠ [] ∧ segment ≠ ['.'] ∧ segment ≠ ['.', '.'] ∧
    ∀ c ∈ segment, Percent.isUnreserved c = true

/-- Segments, each of them behind a slash. -/
def IsPath (path : Text) : Prop :=
  ∃ segments, segments ≠ [] ∧ (∀ segment ∈ segments, IsSegment segment) ∧
    path = '/' :: Text.joinWith ['/'] segments

instance (segment : Text) : Decidable (IsSegment segment) :=
  inferInstanceAs (Decidable (_ ∧ _ ∧ _ ∧ ∀ c ∈ segment, _))

theorem ne_of_isUnreserved {c d : Char} (hc : Percent.isUnreserved c = true)
    (hd : Percent.isUnreserved d = false) : c ≠ d := by
  rintro rfl
  rw [hd] at hc
  exact absurd hc (by simp)

/-- An unreserved character is printable. -/
theorem bounds_of_isUnreserved {c : Char} (h : Percent.isUnreserved c = true) :
    0x20 < c.toNat ∧ c.toNat < 0x7F :=
  Table.isQueryChar_bounds (Table.isQueryChar_of_isWritten (by simp [Percent.isWritten, h]))

/-- The characters of a path are slashes and unreserved characters. -/
theorem IsPath.mem {path : Text} (h : IsPath path) {c : Char} (hc : c ∈ path) :
    c = '/' ∨ Percent.isUnreserved c = true := by
  obtain ⟨segments, -, hsegments, rfl⟩ := h
  rcases List.mem_cons.1 hc with rfl | hc
  · exact Or.inl rfl
  · rcases Text.mem_joinWith hc with hc | ⟨segment, hsegment, hc⟩
    · exact Or.inl (List.mem_singleton.1 hc)
    · exact Or.inr ((hsegments segment hsegment).2.2.2 c hc)

theorem IsPath.exists_cons {path : Text} (h : IsPath path) : ∃ rest, path = '/' :: rest := by
  obtain ⟨segments, -, -, rfl⟩ := h
  exact ⟨_, rfl⟩

theorem IsPath.plain {path : Text} (h : IsPath path) : Plain path := by
  intro c hc
  rcases h.mem hc with rfl | hc
  · decide
  · exact ⟨ne_of_isUnreserved hc (by decide), ne_of_isUnreserved hc (by decide)⟩

namespace Path

/-- A segment without percent signs has no points to unescape. -/
theorem unescapePoints_of_not_mem {s : Text} (h : '%' ∉ s) : unescapePoints s = s := by
  induction s with
  | nil => rfl
  | cons c s ih =>
      obtain ⟨hc, hs⟩ := not_or.1 (mt List.mem_cons.2 h)
      rw [unescapePoints, ih hs]
      · rintro rest rfl -
        exact hc rfl
      · rintro rest rfl -
        exact hc rfl

/-- A step down is written as it is. -/
theorem encodeWith_of_isSegment {segment : Text} (h : IsSegment segment) :
    encodeWith inPathSet segment = segment := by
  refine encodeWith_eq_self fun c hc => ?_
  have hchar := h.2.2.2 c hc
  have hbounds := bounds_of_isUnreserved hchar
  refine ⟨by omega, ?_⟩
  have hne : ∀ d, Percent.isUnreserved d = false → c ≠ d := fun d => ne_of_isUnreserved hchar
  simp [inPathSet, inFragmentSet, hne ' ' (by decide), hne '"' (by decide), hne '<' (by decide),
    hne '>' (by decide), hne '\x60' (by decide), hne '#' (by decide), hne '?' (by decide),
    hne '\x7b' (by decide), hne '\x7d' (by decide)]

/-- Steps down are added one by one. -/
theorem resolve_of_isSegment (done : List Text) {segments : List Text}
    (h : ∀ segment ∈ segments, IsSegment segment) :
    resolve false done segments = segments.reverse ++ done := by
  induction segments generalizing done with
  | nil => rfl
  | cons segment segments ih =>
      have hsegment := h segment List.mem_cons_self
      have hpercent : '%' ∉ segment := fun hm =>
        absurd (hsegment.2.2.2 _ hm) (by decide)
      simp only [resolve, unescapePoints_of_not_mem hpercent, hsegment.2.1, hsegment.2.2.1,
        encodeWith_of_isSegment hsegment, Bool.false_and, Bool.false_eq_true, if_false]
      rw [ih _ fun s hs => h s (List.mem_cons_of_mem _ hs)]
      simp

/-- A path of steps down is its own normal form. -/
theorem normalize_of_isPath {path : Text} (h : IsPath ('/' :: path)) :
    normalize false SchemeKind.web.isSlash path = '/' :: path := by
  obtain ⟨segments, hne, hsegments, hpath⟩ := h
  obtain rfl := List.tail_eq_of_cons_eq hpath
  have hsplit : Text.splitWhere SchemeKind.web.isSlash (Text.joinWith ['/'] segments) = segments := by
    refine Text.splitWhere_joinWith (by decide) hne fun segment hsegment c hc => ?_
    have hchar := (hsegments segment hsegment).2.2.2 c hc
    simp [SchemeKind.isSlash, ne_of_isUnreserved hchar (d := '/') (by decide),
      ne_of_isUnreserved hchar (d := '\\') (by decide)]
  simp only [normalize, hsplit, resolve_of_isSegment [] hsegments, List.append_nil,
    List.reverse_reverse, Bool.false_eq_true, if_false]
  exact Text.flatMap_cons_eq_joinWith '/' hne

end Path

/-! ### Behind a host -/

/-- What stands in front of the path: `https` and the host. -/
def secureFront (host : Text) : Text := "https://".toList ++ host

/-- Behind the host the path is read as it stands, in front of any rest. -/
theorem behindAuthority_of_isPath {path r : Text} (h : IsPath path) (hr : IsRest r) :
    behindAuthority .web (path ++ r) = withRest .web path r := by
  obtain ⟨rest, rfl⟩ := h.exists_cons
  have hslash : SchemeKind.web.isSlash '/' = true := by decide
  have hfile : (SchemeKind.web == SchemeKind.file) = false := by decide
  simp only [List.cons_append, behindAuthority, hslash, if_true]
  rw [hierarchical_append h.plain.tail hr, hfile, Path.normalize_of_isPath h]

theorem splitScheme?_secure (rest : Text) :
    splitScheme? ("https://".toList ++ rest) = some ("https".toList, "//".toList ++ rest) := rfl

/-- A cleaned text is read up to its path as it stands. -/
theorem readCleaned_secure {host path r : Text} (hhost : IsHost host) (hpath : IsPath path)
    (hr : IsRest r) :
    readCleaned (secureFront host ++ path ++ r) = .ok (withRest .web path r) := by
  have hassoc (scheme : Text) :
      scheme ++ host ++ path ++ r = scheme ++ (host ++ (path ++ r)) := by simp
  have hscheme : splitScheme? (secureFront host ++ path ++ r) =
      some ("https".toList, "//".toList ++ (host ++ (path ++ r))) :=
    (congrArg splitScheme? (hassoc _)).trans (splitScheme?_secure _)
  have hkind : SchemeKind.of "https".toList = .web := by decide
  -- The slashes behind the scheme end with the first letter of the host.
  have hslashes : ("//".toList ++ (host ++ (path ++ r))).dropWhile SchemeKind.web.isSlash =
      host ++ (path ++ r) := by
    obtain ⟨c, rest, rfl, hc⟩ := hhost.exists_cons
    have hslash : SchemeKind.web.isSlash c = false :=
      of_letters (p := fun c => SchemeKind.web.isSlash c = false) (by decide) hc
    rw [List.dropWhile_append_of_pos (by decide), List.cons_append,
      List.dropWhile_cons_of_neg (by simp [hslash])]
  have hskip : skipAuthority .web (host ++ (path ++ r)) = .ok (path ++ r) := by
    obtain ⟨rest, rfl⟩ := hpath.exists_cons
    exact skipAuthority_of_isHost hhost (rest ++ r)
  rw [readCleaned, hscheme]
  simp only [hkind, parseBehindScheme, hslashes, hskip, Except.map,
    behindAuthority_of_isPath hpath hr]

/-- Scheme, host and path have no control characters and spaces. -/
theorem visible_secureFront {host path : Text} (hhost : IsHost host) (hpath : IsPath path) :
    ∀ c ∈ secureFront host ++ path, isControlOrSpace c = false := by
  intro c hc
  rcases List.mem_append.1 hc with hc | hc
  · rcases List.mem_append.1 hc with hc | hc
    · have hscheme : ∀ c ∈ "https://".toList, isControlOrSpace c = false := by decide
      exact hscheme c hc
    · exact hhost.forall_mem (p := fun c => isControlOrSpace c = false) (by decide) (by decide) c hc
  · rcases hpath.mem hc with rfl | hc
    · decide
    · have hbounds := bounds_of_isUnreserved hc
      rw [isControlOrSpace, decide_eq_false_iff_not]
      omega

/-- **Reading a text behind `https` and a host of small letters.**  A path of steps down is read as it
stands, and of query and fragment what stands there is written. -/
theorem parse_secure {host path q tail : Text} (hhost : IsHost host) (hpath : IsPath path)
    (hq : IsQuery q) (hhash : '#' ∉ q) (htail : IsTail tail)
    (hend : tail = [] → ∀ c ∈ q.getLast?, isControlOrSpace c = false) :
    parse (secureFront host ++ path ++ (q ++ tail)) =
      .ok ⟨path, writtenQuery .web q.tail, encodeWith inFragmentSet (cleanedTail tail).tail⟩ := by
  have hfront := visible_secureFront hhost hpath
  have hlead : lead (secureFront host ++ path) = secureFront host ++ path := by
    have hstart : ∀ c ∈ (secureFront host ++ path).head?, isControlOrSpace c = false :=
      fun c hc => hfront c (List.mem_of_head? hc)
    have happend := lead_append (a := []) hstart
    rwa [List.nil_append] at happend
  have hlast : tail = [] →
      ∀ c ∈ (secureFront host ++ path ++ q).getLast?, isControlOrSpace c = false := by
    intro hnil c hc
    rcases hq with rfl | ⟨query, rfl⟩
    · rw [List.append_nil] at hc
      exact hfront c (List.mem_of_getLast? hc)
    · rw [List.getLast?_append_of_ne_nil _ (by simp)] at hc
      exact hend hnil c hc
  have hprintable : ∀ c ∈ secureFront host ++ path, 0x20 ≤ c.toNat := by
    intro c hc
    have hcontrol := hfront c hc
    rw [isControlOrSpace, decide_eq_false_iff_not] at hcontrol
    omega
  rw [parse_eq_readCleaned, cleaned_parts hq htail hlast, hlead,
    visible_eq_self hprintable,
    readCleaned_secure hhost hpath (hq.visible.isRest htail.cleaned),
    withRest_parts hq hhash htail]

end Url

end Pushdown
