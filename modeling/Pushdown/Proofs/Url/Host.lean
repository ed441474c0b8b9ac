/-
**Hosts of small letters.**

A host whose labels are made of small letters is its own normal form.  Folding leaves its letters
alone, none of them is a mark, a joiner or written from right to left, no label stands for another
one, and the last label is no number.  So such a host is read as it stands, and the reader of a URL
goes on with the slash behind it.

Main definitions:

* `Url.IsLabel`, `Url.IsHost` — labels of small letters, and hosts that are made of them.

Main results:

* `Url.Domain.normalize?_of_isHost` — such a host is its own normal form;
* `Url.parseHost_of_isHost` — it is read as it stands;
* `Url.skipAuthority_of_isHost` — **the rest behind it is what follows from the next slash on**.
-/

import Mathlib.Data.List.Basic
import Pushdown.Proofs.Codec.Form
import Pushdown.Proofs.Text.Splitting
import Pushdown.Proofs.Url.Front

set_option autoImplicit false

namespace Pushdown

namespace Url

/-! ### Letters -/

/-- A label of small letters. -/
def IsLabel (label : Text) : Prop := label ≠ [] ∧ ∀ c ∈ label, 'a' ≤ c ∧ c ≤ 'z'

/-- Labels of small letters with points between them. -/
def IsHost (host : Text) : Prop :=
  ∃ labels, labels ≠ [] ∧ (∀ label ∈ labels, IsLabel label) ∧ host = Text.joinWith ['.'] labels

instance (label : Text) : Decidable (IsLabel label) :=
  inferInstanceAs (Decidable (_ ∧ ∀ c ∈ label, _))

/-- What holds of the letters one by one holds of each small letter. -/
theorem of_letters {p : Char → Prop} (h : ∀ k : Fin 26, p (Char.ofNat (97 + k.val))) {c : Char}
    (hc : 'a' ≤ c ∧ c ≤ 'z') : p c := by
  have hlow : 97 ≤ c.toNat := hc.1
  have hhigh : c.toNat ≤ 122 := hc.2
  have hletter := h ⟨c.toNat - 97, by omega⟩
  rwa [Nat.add_sub_cancel' hlow, Char.ofNat_toNat] at hletter

/-- What holds of the letters and of the point holds of each character of a host. -/
theorem IsHost.forall_mem {host : Text} (h : IsHost host) {p : Char → Prop}
    (hletters : ∀ k : Fin 26, p (Char.ofNat (97 + k.val))) (hpoint : p '.') : ∀ c ∈ host, p c := by
  obtain ⟨labels, -, hlabels, rfl⟩ := h
  intro c hc
  rcases Text.mem_joinWith hc with hc | ⟨label, hlabel, hc⟩
  · rwa [List.mem_singleton.1 hc]
  · exact of_letters hletters ((hlabels label hlabel).2 c hc)

theorem IsLabel.not_mem {label : Text} (h : IsLabel label) {c : Char} (hc : ¬ ('a' ≤ c ∧ c ≤ 'z')) :
    c ∉ label := fun hm => hc (h.2 c hm)

/-- A host starts with a letter. -/
theorem IsHost.exists_cons {host : Text} (h : IsHost host) :
    ∃ c rest, host = c :: rest ∧ 'a' ≤ c ∧ c ≤ 'z' := by
  obtain ⟨labels, hne, hlabels, rfl⟩ := h
  obtain ⟨label, labels, rfl⟩ := List.exists_cons_of_ne_nil hne
  obtain ⟨hlabel, hletters⟩ := hlabels label List.mem_cons_self
  obtain ⟨c, rest, rfl⟩ := List.exists_cons_of_ne_nil hlabel
  have hc := hletters c List.mem_cons_self
  cases labels with
  | nil => exact ⟨c, rest, rfl, hc⟩
  | cons next labels => exact ⟨c, _, rfl, hc⟩

/-- The pieces of a host between its points are its labels. -/
theorem splitAll_labels {labels : List Text} (hne : labels ≠ [])
    (hlabels : ∀ label ∈ labels, IsLabel label) :
    Text.splitAll '.' (Text.joinWith ['.'] labels) = labels := by
  refine Text.splitWhere_joinWith (by simp) hne fun label hlabel c hc => ?_
  rw [decide_eq_false_iff_not]
  rintro rfl
  exact (hlabels label hlabel).not_mem (by decide) hc

/-! ### Domain names -/

namespace Domain

theorem foldChars_eq_self {s : Text} (h : ∀ c ∈ s, foldChar c = some [c]) :
    foldChars s = some s := by
  induction s with
  | nil => rfl
  | cons c s ih =>
      rw [foldChars, h c List.mem_cons_self, ih fun d hd => h d (List.mem_cons_of_mem _ hd)]
      rfl

/-- Folding leaves a host of small letters alone. -/
theorem fold_of_isHost {host : Text} (h : IsHost host) : fold host = some host := by
  have hfold : foldChars host = some host :=
    foldChars_eq_self (h.forall_mem (p := fun c => foldChar c = some [c]) (by decide) (by decide))
  have hascii : (host.all fun c => decide (c.toNat < 0x80)) = true :=
    List.all_eq_true.2 (h.forall_mem (by decide) (by decide))
  have hallowed : host.any isForbidden = false :=
    List.any_eq_false.2 (h.forall_mem (by decide) (by decide))
  have hcomposed : Text.composedForm host = host := if_pos hascii
  simp only [fold, hfold, hcomposed, hallowed, Bool.false_eq_true, if_false]

theorem joinersFitBehind_of_label {label : Text} (h : ∀ c ∈ label, 'a' ≤ c ∧ c ≤ 'z')
    (front : Text) : Text.joinersFitBehind front label = true := by
  induction label generalizing front with
  | nil => rfl
  | cons c label ih =>
      have hjoiners : c ≠ '\u200d' ∧ c ≠ '\u200c' :=
        of_letters (p := fun c => c ≠ '\u200d' ∧ c ≠ '\u200c') (by decide) (h c List.mem_cons_self)
      rw [Text.joinersFitBehind, ih fun d hd => h d (List.mem_cons_of_mem _ hd)]
      simp [hjoiners.1, hjoiners.2]

/-- A label of small letters stands for itself. -/
theorem decodeLabel?_of_isLabel {label : Text} (h : IsLabel label) :
    decodeLabel? label = some label := by
  have hmark : (label.head?.map Text.isMark).getD false = false := by
    obtain ⟨c, rest, rfl⟩ := List.exists_cons_of_ne_nil h.1
    exact of_letters (p := fun c => Text.isMark c = false) (by decide) (h.2 c List.mem_cons_self)
  have hwide : label.any isWide = false := List.any_eq_false.2 fun c hc =>
    of_letters (p := fun c => ¬ isWide c = true) (by decide) (h.2 c hc)
  have hshaped : isShaped label = true := by
    rw [isShaped, hmark, hwide, Text.joinersFit, joinersFitBehind_of_label h.2]
    simp
  have hhyphen : '-' ∉ label := h.not_mem (by decide)
  rw [decodeLabel?, if_pos hshaped]
  rintro rest rfl
  exact hhyphen (by simp)

theorem mapM_decodeLabel? {labels : List Text} (h : ∀ label ∈ labels, IsLabel label) :
    labels.mapM decodeLabel? = some labels := by
  induction labels with
  | nil => rfl
  | cons label labels ih =>
      rw [List.mapM_cons, decodeLabel?_of_isLabel (h label List.mem_cons_self),
        ih fun l hl => h l (List.mem_cons_of_mem _ hl)]
      rfl

theorem areLabels_of_isLabel {labels : List Text} (h : ∀ label ∈ labels, IsLabel label) :
    areLabels labels = true := by
  have hleft : labels.any Text.needsOneWay = false := by
    refine List.any_eq_false.2 fun label hlabel => ?_
    rw [Bool.not_eq_true, Text.needsOneWay]
    refine List.any_eq_false.2 fun c hc => ?_
    exact of_letters (p := fun c => ¬ (Text.direction c == .right ||
      Text.direction c == .arabicNumber) = true) (by decide) ((h label hlabel).2 c hc)
  simp only [areLabels, mapM_decodeLabel? h, hleft, Bool.not_false, Bool.true_or]

/-- **A host of small letters is its own normal form.** -/
theorem normalize?_of_isHost {host : Text} (h : IsHost host) : normalize? host = some host := by
  have hfold := fold_of_isHost h
  obtain ⟨labels, hne, hlabels, rfl⟩ := h
  simp only [normalize?, hfold, splitAll_labels hne hlabels, areLabels_of_isLabel hlabels, if_true]

end Domain

/-! ### Hosts -/

/-- The last label of a host of small letters is no number. -/
theorem endsInNumber_of_isHost {host : Text} (h : IsHost host) : endsInNumber host = false := by
  obtain ⟨labels, hne, hlabels, rfl⟩ := h
  obtain ⟨last, hlast⟩ : ∃ last, labels.getLast? = some last :=
    ⟨_, List.getLast?_eq_some_getLast hne⟩
  have hlabel := hlabels last (List.mem_of_getLast? hlast)
  obtain ⟨c, rest, rfl⟩ := List.exists_cons_of_ne_nil hlabel.1
  have hdigit : isDigit c = false :=
    of_letters (p := fun c => isDigit c = false) (by decide) (hlabel.2 c List.mem_cons_self)
  have hzero : c ≠ '0' :=
    of_letters (p := fun c => c ≠ '0') (by decide) (hlabel.2 c List.mem_cons_self)
  have hparts : hostParts (Text.joinWith ['.'] labels) = labels := by
    simp [hostParts, splitAll_labels hne hlabels, hlast]
  have hvalue : partValue (c :: rest) = .notANumber := by
    unfold partValue
    split <;> simp_all [numberIn]
  simp [endsInNumber, hparts, hlast, hdigit, hvalue]

/-- A host of small letters is read as it stands. -/
theorem parseHost_of_isHost {host : Text} (h : IsHost host) : parseHost host = .ok host := by
  have hdecode : Percent.decode host = .ok host := by
    have hround := Percent.decode_encode host
    rwa [Percent.encode_eq_self (h.forall_mem (by decide) (by decide))] at hround
  have hnormal := Domain.normalize?_of_isHost h
  have hnumber := endsInNumber_of_isHost h
  obtain ⟨c, rest, rfl, hc⟩ := h.exists_cons
  have hbracket : c ≠ '[' := of_letters (p := fun c => c ≠ '[') (by decide) hc
  unfold parseHost
  split
  · next heq => exact absurd (List.cons.inj heq).1 hbracket
  · simp [hdecode, hnormal, hnumber]

/-! ### Authorities -/

theorem takeHost_append_cons {kind : SchemeKind} {host : Text}
    (h : ∀ c ∈ host, c ≠ ':' ∧ c ≠ '[' ∧ c ≠ ']' ∧ kind.endsAuthority c = false) {d : Char}
    (hd : kind.endsAuthority d = true) (rest : Text) :
    takeHost kind false (host ++ d :: rest) = (host, d :: rest) := by
  induction host with
  | nil => simp [takeHost, hd]
  | cons c host ih =>
      obtain ⟨hcolon, hopen, hclose, hends⟩ := h c List.mem_cons_self
      have hrest := ih fun e he => h e (List.mem_cons_of_mem _ he)
      simp [takeHost, hcolon, hopen, hclose, hends, hrest]

theorem splitLastAt?_of_not_mem {s : Text} (h : '@' ∉ s) : splitLastAt? s = none := by
  cases hsplit : splitLastAt? s with
  | none => rfl
  | some halves =>
      refine absurd ?_ h
      rw [eq_append_of_splitLastAt? hsplit]
      simp

/-- **The rest behind a host of small letters is what follows from the next slash on.** -/
theorem skipAuthority_of_isHost {host : Text} (h : IsHost host) (rest : Text) :
    skipAuthority .web (host ++ '/' :: rest) = .ok ('/' :: rest) := by
  have hends : ∀ c ∈ host, (!SchemeKind.web.endsAuthority c) = true :=
    h.forall_mem (by decide) (by decide)
  have htake : ∀ c ∈ host, c ≠ ':' ∧ c ≠ '[' ∧ c ≠ ']' ∧ SchemeKind.web.endsAuthority c = false :=
    h.forall_mem (by decide) (by decide)
  have hat : '@' ∉ host := fun hm =>
    h.forall_mem (p := fun c => c ≠ '@') (by decide) (by decide) _ hm rfl
  have hslash : SchemeKind.web.endsAuthority '/' = true := by decide
  have hcolon : ∀ c ∈ ('/' :: rest).head?, c ≠ ':' := by simp
  obtain ⟨c, more, hhost, -⟩ := h.exists_cons
  have hne : host ≠ [] := by simp [hhost]
  rw [skipAuthority_eq, List.takeWhile_append_of_pos hends, List.dropWhile_append_of_pos hends]
  simp only [List.takeWhile_cons, List.dropWhile_cons, hslash, Bool.not_true, Bool.false_eq_true,
    if_false, List.append_nil, userAndHost, splitLastAt?_of_not_mem hat, Option.getD_none,
    reduceCtorEq, false_and, skipHost, takeHost_append_cons htake hslash, hne, and_false,
    if_true, parseHost_of_isHost h, behindHost_of_head hcolon]
  simp

end Url

end Pushdown
