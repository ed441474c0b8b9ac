/-
**Absolute and relative forms of a table.**

A relative text is cut by hand at its marks, and an absolute one is read as a URL, which normalizes
the path and escapes further characters of query and fragment.  For a path that is its own normal
form both come to the same: what a URL escapes further is read back as what it was, as parameters,
header pairs, body and fragment are all read through escapes.

Main results:

* `Table.scan_secure` — **a text is read alike with and without `https` and a host in front**;
* `Table.decode_secure` — so are the two kinds of tables;
* `Table.decode_secure_encode` — a table comes back from its text, also behind a host.
-/

import Pushdown.Proofs.Codec.Escape
import Pushdown.Proofs.Table.Normal
import Pushdown.Proofs.Url.Absolute

set_option autoImplicit false

namespace Pushdown

namespace Url

/-! ### Escapes of a URL -/

/-- A URL escapes no character that means something in a form, if its class has none. -/
theorem sparesMarks {also : Char → Bool} (h : ∀ c, also c = true → Form.isMark c = false) :
    Form.SparesMarks fun c =>
      if c.toNat < 0x20 || 0x7E < c.toNat || also c then Percent.escapeChar c else [c] := by
  intro c
  by_cases hescaped : (c.toNat < 0x20 || 0x7E < c.toNat || also c) = true
  · refine Or.inr ⟨if_pos hescaped, ?_⟩
    simp only [Bool.or_eq_true, decide_eq_true_eq] at hescaped
    rcases hescaped with hcontrol | halso
    · by_contra hmark
      have hbounds := Form.isMark_bounds (Bool.not_eq_false _ ▸ hmark)
      omega
    · exact h c halso
  · exact Or.inl (if_neg hescaped)

/-- The pairs of a query are those of the query in a URL. -/
theorem readPairs_encodeWith (kind : SchemeKind) (query : Text) :
    Form.readPairs (encodeWith (isEscaped kind) query) = Form.readPairs query := by
  refine Form.readPairs_flatMap (sparesMarks fun c hc => ?_) query
  simp only [isEscaped, inQuerySet, Bool.or_eq_true, Bool.and_eq_true,
    decide_eq_true_eq] at hc
  rcases hc with ((((rfl | rfl) | rfl) | rfl) | rfl) | ⟨rfl, -⟩ <;> decide

end Url

namespace Table

/-- A fragment stands for what the fragment in a URL stands for. -/
theorem readFragment_encodeWith (fragment : Text) :
    readFragment (Url.encodeWith Url.inFragmentSet fragment) = readFragment fragment := by
  have hoctets : Percent.octets (Url.encodeWith Url.inFragmentSet fragment) =
      Percent.octets fragment := by
    refine Form.octets_flatMap (Url.sparesMarks fun c hc => ?_) fragment
    simp only [Url.inFragmentSet, Bool.or_eq_true, decide_eq_true_eq] at hc
    rcases hc with (((rfl | rfl) | rfl) | rfl) | rfl <;> decide
  rw [readFragment, Percent.decode, hoctets, readFragment, Percent.decode]

/-! ### Texts behind a host -/

theorem not_isRelative_secure (host u : Text) : ¬ IsRelative (Url.secureFront host ++ u) := by
  refine fun h => h ⟨"https".toList, host ++ u, ?_⟩
  exact (List.append_assoc "https://".toList host u).symm

theorem trim_secure (host : Text) {u : Text} (hpath : Url.IsPath (pathOf u))
    (htrim : Text.trim u = u) :
    Text.trim (Url.secureFront host ++ u) = Url.secureFront host ++ u := by
  have hne : u ≠ [] := by
    rintro rfl
    obtain ⟨rest, hrest⟩ := hpath.exists_cons
    exact absurd hrest (by simp [pathOf])
  refine Text.trim_eq_self_iff.2 ⟨fun c hc => ?_, fun c hc => ?_⟩
  · have hletter : c = 'h' := (Option.some.inj hc).symm
    rw [hletter]
    decide
  · rw [List.getLast?_append_of_ne_nil _ hne] at hc
    exact (Text.trim_eq_self_iff.1 htrim).2 c hc

/-- Neither a control character nor a space ends a printable text without blanks at its ends. -/
theorem not_control_of_last {u : Text} (htrim : Text.trim u = u)
    (hcontrol : ∀ c ∈ u, 0x20 ≤ c.toNat) :
    ∀ c ∈ u.getLast?, Url.isControlOrSpace c = false := by
  intro c hc
  have hlow := hcontrol c (List.mem_of_getLast? hc)
  have hblank := (Text.trim_eq_self_iff.1 htrim).2 c hc
  have hspace : c.toNat ≠ 0x20 := by
    intro heq
    simp [Text.isBlank, heq] at hblank
  rw [Url.isControlOrSpace, decide_eq_false_iff_not]
  omega

section

variable {host u : Text} (hhost : Url.IsHost host) (hpath : Url.IsPath (pathOf u))
  (htrim : Text.trim u = u) (hrelative : IsRelative u) (hcontrol : ∀ c ∈ u, 0x20 ≤ c.toNat)

include hhost hpath htrim hrelative hcontrol

/-- **A text is read alike with and without `https` and a host in front**, if its path is its own
normal form and it has no control characters. -/
theorem scan_secure : scan (Url.secureFront host ++ u) = scan u := by
  have htrimmed := trim_secure host hpath htrim
  have habsolute := not_isRelative_secure host u
  have hlast := not_control_of_last htrim hcontrol
  obtain ⟨a, q, tail, rfl, ha, hq, hhash, htail⟩ := exists_parts u
  rw [pathOf_parts ha hq htail] at hpath
  -- Cleaning the URL takes nothing from query and fragment.
  have hquery : Url.visible q.tail = q.tail := Url.visible_eq_self fun c hc =>
    hcontrol c (List.mem_append_right _ (List.mem_append_left _ (List.mem_of_mem_tail hc)))
  have hsuffix : tail <:+ a ++ (q ++ tail) :=
    (List.suffix_append _ _).trans (List.suffix_append _ _)
  have hfragment : Url.cleanedTail tail = tail :=
    Url.cleanedTail_eq_self (fun c hc => hcontrol c (hsuffix.subset hc))
      fun c hc => hlast c (Url.getLast?_of_suffix hsuffix hc)
  have hend : tail = [] → ∀ c ∈ q.getLast?, Url.isControlOrSpace c = false := by
    rintro rfl c hc
    rw [List.append_nil] at hlast
    exact hlast c (Url.getLast?_of_suffix (List.suffix_append _ _) hc)
  have hsplit : split (Url.secureFront host ++ (a ++ (q ++ tail))) =
      .ok (a, Url.encodeWith (Url.isEscaped .web) q.tail,
        Url.encodeWith Url.inFragmentSet tail.tail) := by
    rw [split_absolute habsolute, ← List.append_assoc,
      Url.parse_secure hhost hpath hq hhash htail hend]
    simp only [Url.writtenQuery, hquery, hfragment]
  rw [scan, htrimmed, hsplit, scan, htrim, split_relative_parts ha hq hhash htail hrelative]
  simp only [readQuery, Url.readPairs_encodeWith, readFragment_encodeWith]

/-- So are the tables that are read of it, with all values and with single values. -/
theorem decode_secure :
    decode (Url.secureFront host ++ u) = decode u ∧
      SingleTable.decode (Url.secureFront host ++ u) = SingleTable.decode u := by
  have hscan := scan_secure hhost hpath htrim hrelative hcontrol
  exact ⟨congrArg (Except.map _) hscan, congrArg (Except.map _) hscan⟩

end

/-! ### Tables behind a host -/

/-- A path without escapes does not count as an absolute URL. -/
theorem isRelative_of_isPath {path : Text} (h : Url.IsPath path) : IsRelative path := by
  intro hmark
  rcases h.mem (hmark.subset (by decide) : ':' ∈ path) with hc | hc
  · exact absurd hc (by decide)
  · exact absurd hc (by decide)

theorem pathOf_encode {t : Table} (h : Url.Plain t.path) : pathOf t.encode = t.path := by
  rw [encode, List.append_assoc]
  exact pathOf_parts h (isQuery_queryText t) (Or.inr ⟨_, rfl⟩)

/-- The text of a table has no control characters but those of its path and its fragment. -/
theorem printable_encode {t : Table} (hpath : ∀ c ∈ t.path, 0x20 ≤ c.toNat)
    (hfragment : ∀ c ∈ t.fragment, 0x20 ≤ c.toNat) : ∀ c ∈ t.encode, 0x20 ≤ c.toNat := by
  intro c hc
  rcases List.mem_append.1 hc with hc | hc
  · rcases List.mem_append.1 hc with hc | hc
    · exact hpath c hc
    · rcases queryText_eq t with ⟨hq, -⟩ | hq
      · rw [hq] at hc
        exact absurd hc List.not_mem_nil
      · rw [hq] at hc
        rcases List.mem_cons.1 hc with rfl | hc
        · decide
        · have hbounds := isQueryChar_bounds (isQueryChar_query t c hc)
          omega
  · rcases List.mem_cons.1 hc with rfl | hc
    · decide
    · obtain ⟨d, hd, hcd⟩ := List.mem_flatMap.1 hc
      split at hcd
      · have hescape : ∀ c ∈ "%25".toList, 0x20 ≤ c.toNat := by decide
        exact hescape c hcd
      · exact List.mem_singleton.1 hcd ▸ hfragment d hd

/-- **A table comes back from its text, also behind a host.**  Take a legible table whose parameters
were added one by one, whose path is its own normal form and whose fragment has no control
characters.  With `https` and any host of small letters in front its text is read as the same table
as without. -/
theorem decode_secure_encode {t : Table} {pairs : List (Text × Text)} {host : Text}
    (hparams : t.params = Params.ofPairs pairs) (h : t.Legible)
    (hpath : Url.IsPath t.path) (hfragment : IsRelative t.fragment)
    (hcontrol : ∀ c ∈ t.fragment, 0x20 ≤ c.toNat) (hhost : Url.IsHost host) :
    decode ("https://".toList ++ host ++ t.encode) = .ok t ∧ decode t.encode = .ok t := by
  have hrelative : IsRelative t.encode := isRelative_encode (isRelative_of_isPath hpath) hfragment
  have hback : decode t.encode = .ok t :=
    h.decode_encode (hparams ▸ Params.grouped_ofPairs pairs) hrelative
  have hprintable : ∀ c ∈ t.path, 0x20 ≤ c.toNat := by
    intro c hc
    rcases hpath.mem hc with rfl | hc
    · decide
    · exact Nat.le_of_lt (Url.bounds_of_isUnreserved hc).1
  have hpathOf : Url.IsPath (pathOf t.encode) := (pathOf_encode hpath.plain).symm ▸ hpath
  refine ⟨?_, hback⟩
  rw [← hback]
  exact (decode_secure hhost hpathOf h.trim_encode_eq hrelative
    (printable_encode hprintable hcontrol)).1

/-- A table whose names, values and fragment hold what a URL escapes. -/
def quotedTable : Table where
  path := "/v1/~users_/a.b-c/..d".toList
  params := Params.ofPairs
    [("a&b".toList, "1=2 'x'".toList), ("p+q".toList, "#,%".toList), ("a&b".toList, "ü€".toList)]
  headers := (Dictionary.empty.insert "X,Y".toList " a:b&c ".toList).insert "z".toList "1".toList
  body := some (.object [("k".toList, .array [.integer (-3), .null, .string "&=%".toList])])
  fragment := "$..[?(@.p == 'a%20b')]#?<\"ü\">".toList

theorem decode_secure_encode_quotedTable :
    decode ("https://".toList ++ "api.example.com".toList ++ quotedTable.encode) =
        .ok quotedTable ∧
      decode quotedTable.encode = .ok quotedTable :=
  decode_secure_encode rfl (by decide +kernel)
    ⟨["v1".toList, "~users_".toList, "a.b-c".toList, "..d".toList], by decide, by decide, rfl⟩
    (by decide) (by decide)
    ⟨["api".toList, "example".toList, "com".toList], by decide, by decide, rfl⟩

end Table

end Pushdown
