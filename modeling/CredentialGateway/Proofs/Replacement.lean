import CredentialGateway.Proofs.Occurrences
import CredentialGateway.Target

/-!
# Replacement in paths

A text is parted by the occurrences of `p` that are met from the left: up to the first one, from
there to the next, and so on, until none is left.  There is one such parting, the gaps are its
parts, and relocation puts another text between them, whatever that text holds.

A suffix behind the start and a slash may start the way the start goes on.  Then slash and suffix
make the start once more, although the suffix does not hold it.

    p ≠ [] →  (IsParting p s us ↔ us = gaps p s)                               (isParting_iff)
    each path has one parting, and relocation keeps its parts                 (replaces_parts)
    the suffix is kept ↔ it does not start as the start goes on          (relocate_suffix_iff)
-/

namespace CredentialGateway

namespace Text

/-! ## Partings -/

/-- Behind `u` stands the first `p`: in `u ++ p` there is none but at the end. -/
def OnlyAtEnd (p u : Text) : Prop := ∀ a c, u ++ p = a ++ p ++ c → c = []

/-- The text is the parts with `p` between them.  Behind each part but the last stands the first `p`
that is left, and the last part holds none. -/
structure IsParting (p s : Text) (us : List Text) : Prop where
  joined : p.intercalate us = s
  onlyAtEnd : ∀ u ∈ us.dropLast, OnlyAtEnd p u
  noneLeft : ∃ u ∈ us.getLast?, ¬ p <:+: u

section Parting

variable {p s t u : Text} {us : List Text}

theorem onlyAtEnd_nil (p : Text) : OnlyAtEnd p [] := by
  intro a c h
  have hlength := congrArg List.length h
  simp only [List.length_append, List.length_nil] at hlength
  apply List.eq_nil_of_length_eq_zero
  omega

theorem onlyAtEnd_cons {c : Char} :
    OnlyAtEnd p (c :: u) ↔ ¬ p <+: c :: (u ++ p) ∧ OnlyAtEnd p u := by
  constructor
  · intro h
    refine ⟨?_, fun a d hd => h (c :: a) d (congrArg (c :: ·) hd)⟩
    rintro ⟨d, hd⟩
    have hnil : d = [] := h [] d hd.symm
    have hlength := congrArg List.length hd
    simp only [hnil, List.length_append, List.length_cons, List.length_nil] at hlength
    omega
  · rintro ⟨hstart, h⟩ a d hd
    cases a with
    | nil => exact absurd ⟨d, hd.symm⟩ hstart
    | cons e a => exact h a d (List.cons.inj hd).2

/-- Whether `p` stands in front is settled before anything behind `u ++ p` is read. -/
theorem prefix_append_iff {c : Char} : p <+: c :: (u ++ (p ++ t)) ↔ p <+: c :: (u ++ p) := by
  have hfront : c :: (u ++ p) <+: c :: (u ++ (p ++ t)) := ⟨t, by simp⟩
  constructor
  · intro h
    apply List.prefix_of_prefix_length_le h hfront
    simp only [List.length_cons, List.length_append]
    omega
  · intro h
    exact h.trans hfront

/-- The first gap ends where the first `p` stands. -/
theorem gaps_of_onlyAtEnd (hp : p ≠ []) (hu : OnlyAtEnd p u) (t : Text) :
    gaps p (u ++ (p ++ t)) = u :: gaps p t := by
  induction u with
  | nil =>
    obtain ⟨d, q, rfl⟩ := List.exists_cons_of_ne_nil hp
    have hstart : (d :: q).isPrefixOf (d :: (q ++ t)) = true :=
      List.isPrefixOf_iff_prefix.2 ⟨t, rfl⟩
    rw [List.nil_append, List.cons_append, gaps, if_pos hstart]
    simp
  | cons c u ih =>
    obtain ⟨hstart, hu⟩ := onlyAtEnd_cons.1 hu
    have hno : ¬ p.isPrefixOf (c :: (u ++ (p ++ t))) = true := by
      rw [List.isPrefixOf_iff_prefix, prefix_append_iff]
      exact hstart
    rw [List.cons_append, gaps, if_neg hno, ih hu, List.modifyHead_cons]

/-- Without an occurrence there is one gap. -/
theorem gaps_eq_singleton (h : ¬ p <:+: s) : gaps p s = [s] := by
  induction s with
  | nil => rw [gaps]
  | cons c s ih =>
    rw [List.infix_cons_iff, not_or] at h
    rw [gaps, if_neg (mt List.isPrefixOf_iff_prefix.1 h.1), ih h.2, List.modifyHead_cons]

theorem isParting_singleton : IsParting p s [u] ↔ u = s ∧ ¬ p <:+: u := by
  constructor
  · rintro ⟨hjoined, -, v, hv, hnone⟩
    cases hv
    exact ⟨by simpa using hjoined, hnone⟩
  · rintro ⟨rfl, hnone⟩
    exact ⟨by simp, by simp, u, rfl, hnone⟩

theorem isParting_cons (hus : us ≠ []) : IsParting p s (u :: us) ↔
    OnlyAtEnd p u ∧ ∃ t, u ++ (p ++ t) = s ∧ IsParting p t us := by
  obtain ⟨v, vs, rfl⟩ := List.exists_cons_of_ne_nil hus
  constructor
  · rintro ⟨rfl, hends, hlast⟩
    rw [List.dropLast_cons_of_ne_nil hus, List.forall_mem_cons] at hends
    refine ⟨hends.1, p.intercalate (v :: vs), ?_, rfl, hends.2, hlast⟩
    rw [List.intercalate_cons_of_ne_nil hus, List.append_assoc]
  · rintro ⟨hu, t, rfl, rfl, hends, hlast⟩
    refine ⟨?_, ?_, hlast⟩
    · rw [List.intercalate_cons_of_ne_nil hus, List.append_assoc]
    · rw [List.dropLast_cons_of_ne_nil hus, List.forall_mem_cons]
      exact ⟨hu, hends⟩

/-- The gaps part the text. -/
theorem isParting_gaps (hp : p ≠ []) (s : Text) : IsParting p s (gaps p s) := by
  fun_induction gaps p s with
  | case1 =>
    rw [isParting_singleton, List.infix_nil]
    exact ⟨rfl, hp⟩
  | case2 c s hstart ih =>
    rw [isParting_cons (gaps_ne_nil p _)]
    exact ⟨onlyAtEnd_nil p, _, append_drop_of_isPrefixOf hp hstart, ih⟩
  | case3 c s hstart ih =>
    rw [List.isPrefixOf_iff_prefix] at hstart
    -- the first part gets one character longer
    obtain ⟨u, us, hgaps⟩ := List.exists_cons_of_ne_nil (gaps_ne_nil p s)
    rw [hgaps] at ih ⊢
    rw [List.modifyHead_cons]
    by_cases hus : us = []
    · subst hus
      obtain ⟨rfl, hnone⟩ := isParting_singleton.1 ih
      rw [isParting_singleton, List.infix_cons_iff, not_or]
      exact ⟨rfl, hstart, hnone⟩
    · obtain ⟨hu, t, rfl, ht⟩ := (isParting_cons hus).1 ih
      rw [prefix_append_iff] at hstart
      exact (isParting_cons hus).2 ⟨onlyAtEnd_cons.2 ⟨hstart, hu⟩, t, rfl, ht⟩

/-- There is no other parting. -/
theorem isParting_iff (hp : p ≠ []) : IsParting p s us ↔ us = gaps p s := by
  constructor
  · intro h
    induction us generalizing s with
    | nil =>
      obtain ⟨-, -, u, hu, -⟩ := h
      cases hu
    | cons u us ih =>
      by_cases hus : us = []
      · subst hus
        obtain ⟨rfl, hnone⟩ := isParting_singleton.1 h
        rw [gaps_eq_singleton hnone]
      · obtain ⟨hu, t, rfl, ht⟩ := (isParting_cons hus).1 h
        rw [gaps_of_onlyAtEnd hp hu, ← ih ht]
  · rintro rfl
    exact isParting_gaps hp s

/-! ## What is put in -/

/-- What stands behind the first occurrence is replaced by itself, whatever has been put in. -/
theorem replaceAll_of_onlyAtEnd (hp : p ≠ []) (hu : OnlyAtEnd p u) (b t : Text) :
    replaceAll p b (u ++ (p ++ t)) = u ++ (b ++ replaceAll p b t) := by
  rw [replaceAll_eq_intercalate hp, replaceAll_eq_intercalate hp, gaps_of_onlyAtEnd hp hu,
    List.intercalate_cons_of_ne_nil (gaps_ne_nil p t), List.append_assoc]

/-- The empty text is found before every character and at the end. -/
theorem replaceAll_nil (b s : Text) : replaceAll [] b s = s.flatMap (b ++ [·]) ++ b := by
  induction s with
  | nil => simp [replaceAll]
  | cons c s ih =>
    rw [replaceAll, if_pos List.isEmpty_nil, ih, List.flatMap_cons]
    simp

end Parting

end Text

namespace Target

/-- Each path has one parting by a text that is not empty.  Relocation puts the base path between
its parts and reads nothing of it again: what stands behind an occurrence is relocated by itself.
The empty start is found before each character and at the end. -/
theorem replaces_parts (path b : Text) :
    (∀ p, p ≠ [] → (∃! us, Text.IsParting p path us) ∧
      (∀ us, Text.IsParting p path us → relocate path p b = b.intercalate us) ∧
      (∀ u t, Text.OnlyAtEnd p u → relocate (u ++ (p ++ t)) p b = u ++ (b ++ relocate t p b)) ∧
      (∀ t, relocate (p ++ t) p b = b ++ relocate t p b) ∧
      (¬ p <:+: path → relocate path p b = path)) ∧
    relocate path [] b = path.flatMap (b ++ [·]) ++ b := by
  refine ⟨fun p hp => ⟨?_, ?_, ?_, ?_, ?_⟩, Text.replaceAll_nil b path⟩
  · refine ⟨Text.gaps p path, Text.isParting_gaps hp path, ?_⟩
    intro us hus
    exact (Text.isParting_iff hp).1 hus
  · intro us hus
    rw [(Text.isParting_iff hp).1 hus]
    exact Text.replaceAll_eq_intercalate hp b path
  · intro u t hu
    exact Text.replaceAll_of_onlyAtEnd hp hu b t
  · intro t
    exact Text.replaceAll_append hp b t
  · intro hnone
    exact Text.replaceAll_of_not_infix hp b hnone

/-- Occurrences that overlap, and a base path that holds the start. -/
example : relocate "/a/a/a/a/a" "/a/a" "/a/a/b" = "/a/a/b/a/a/b/a".toList := by
  decide +kernel

/-! ## Suffixes -/

/-- A suffix that does not hold the start is kept behind it unless it starts as the start goes on
behind its slash; then slash and suffix make the start again, and the base path stands there twice. -/
theorem relocate_suffix_iff {q s : Text} (hs : ¬ '/' :: q <:+: s) (b : Text) :
    (relocate ('/' :: q ++ '/' :: s) ('/' :: q) b = b ++ '/' :: s ↔ ¬ q <+: s ∨ b = '/' :: q) ∧
    ∀ r, s = q ++ r → relocate ('/' :: q ++ '/' :: s) ('/' :: q) b = b ++ (b ++ r) := by
  have hne : '/' :: q ≠ [] := List.cons_ne_nil _ _
  have htwice : ∀ r, s = q ++ r →
      relocate ('/' :: q ++ '/' :: s) ('/' :: q) b = b ++ (b ++ r) := by
    rintro r rfl
    have hr : ¬ '/' :: q <:+: r := fun h => hs (h.trans (List.suffix_append q r).isInfix)
    show Text.replaceAll _ _ ('/' :: q ++ ('/' :: q ++ r)) = _
    rw [Text.replaceAll_append hne, Text.replaceAll_append hne,
      Text.replaceAll_of_not_infix hne b hr]
  refine ⟨?_, htwice⟩
  by_cases hstart : q <+: s
  · obtain ⟨r, rfl⟩ := hstart
    rw [htwice r rfl]
    have hbase : b ++ r = '/' :: q ++ r ↔ b = '/' :: q := List.append_left_inj r
    simpa using hbase
  · have hnone : ¬ '/' :: q <:+: '/' :: s := by
      rw [List.infix_cons_iff, List.cons_prefix_cons, not_or]
      exact ⟨fun h => hstart h.2, hs⟩
    have hkept : relocate ('/' :: q ++ '/' :: s) ('/' :: q) b = b ++ '/' :: s := by
      rw [relocate, Text.replaceAll_append hne, Text.replaceAll_of_not_infix hne b hnone]
    exact iff_of_true hkept (.inl hstart)

theorem relocate_suffix_iff_openair : ¬ '/' :: "openai".toList <:+: "openair" ∧
    (relocate ('/' :: "openai".toList ++ '/' :: "openair".toList) ('/' :: "openai") "/v1" =
        "/v1" ++ '/' :: "openair".toList ↔
      ¬ "openai".toList <+: "openair" ∨ "/v1".toList = '/' :: "openai") ∧
    ∀ r, "openair".toList = "openai" ++ r →
      relocate ('/' :: "openai".toList ++ '/' :: "openair".toList) ('/' :: "openai") "/v1" =
        "/v1" ++ ("/v1" ++ r) :=
  have h : ¬ '/' :: "openai".toList <:+: "openair" := fun hi =>
    absurd (hi.subset List.mem_cons_self) (by decide)
  ⟨h, relocate_suffix_iff h "/v1"⟩

/-- That the suffix does not hold the start is not enough. -/
theorem not_relocate_suffix_openai :
    ¬ ∀ p b s : Text, p.head? = some '/' → p.getLast? ≠ some '/' → b.head? = some '/' →
      b.getLast? ≠ some '/' → ¬ p <:+: s → relocate (p ++ '/' :: s) p b = b ++ '/' :: s := by
  intro h
  have hnone : ¬ "/openai".toList <:+: "openai" := fun hi =>
    absurd (hi.subset List.mem_cons_self) (by decide)
  have hkept := h "/openai" "/v1" "openai" (by decide) (by decide) (by decide) (by decide) hnone
  exact absurd hkept (by decide +kernel)

end Target

end CredentialGateway
