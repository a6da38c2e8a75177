import CredentialGateway.Text.Replace
import Mathlib.Data.List.TakeDrop
import Mathlib.Data.List.TakeWhile

/-!
# A text around its occurrences

`gaps p s` are the parts of `s` before, between and behind the occurrences of `p` that `replaceAll`
replaces.  A text is its gaps with `p` between them, and the replacement puts another text there, so
what is proved of the gaps one after the other holds of both.

Cutting at a character parts a text around its first occurrence only.

    p ≠ [] →  p.intercalate (gaps p s) = s                         (intercalate_gaps)
    p ≠ [] →  replaceAll p b s = b.intercalate (gaps p s)          (replaceAll_eq_intercalate)
-/

namespace CredentialGateway.Text

/-! ## Algorithm -/

/-- The parts of a text around the occurrences of `p`, from the left and without overlap. -/
def gaps (p : Text) : Text → List Text
  | [] => [[]]
  | c :: s =>
    if p.isPrefixOf (c :: s) then [] :: gaps p (s.drop (p.length - 1))
    else (gaps p s).modifyHead (c :: ·)
termination_by s => s.length

/-! ## Lemmas -/

theorem gaps_ne_nil (p s : Text) : gaps p s ≠ [] := by
  fun_induction gaps p s with
  | case1 => simp
  | case2 => simp
  | case3 c s _ ih => simpa using ih

theorem intercalate_modifyHead_cons (b : Text) (c : Char) {us : List Text} (h : us ≠ []) :
    b.intercalate (us.modifyHead (c :: ·)) = c :: b.intercalate us := by
  obtain ⟨u, us, rfl⟩ := List.exists_cons_of_ne_nil h
  rw [List.modifyHead_cons, List.intercalate_cons_cons_left]

theorem intercalate_nil_cons (b : Text) {us : List Text} (h : us ≠ []) :
    b.intercalate ([] :: us) = b ++ b.intercalate us := by
  rw [List.intercalate_cons_of_ne_nil h, List.nil_append]

/-- A text that starts with `p` is `p` and what stands behind it. -/
theorem append_drop_of_isPrefixOf {p s : Text} {c : Char} (hp : p ≠ [])
    (h : p.isPrefixOf (c :: s) = true) : p ++ s.drop (p.length - 1) = c :: s := by
  obtain ⟨d, q, rfl⟩ := List.exists_cons_of_ne_nil hp
  obtain ⟨t, ht⟩ := List.isPrefixOf_iff_prefix.1 h
  rw [List.cons_append, List.cons.injEq] at ht
  obtain ⟨rfl, rfl⟩ := ht
  simp

/-- A text is its gaps with the occurrences between them. -/
theorem intercalate_gaps {p : Text} (hp : p ≠ []) (s : Text) : p.intercalate (gaps p s) = s := by
  fun_induction gaps p s with
  | case1 => simp
  | case2 c s h ih =>
    rw [intercalate_nil_cons p (gaps_ne_nil p _), ih]
    exact append_drop_of_isPrefixOf hp h
  | case3 c s _ ih => rw [intercalate_modifyHead_cons p c (gaps_ne_nil p s), ih]

/-- Replacement keeps the gaps. -/
theorem replaceAll_eq_intercalate {p : Text} (hp : p ≠ []) (b s : Text) :
    replaceAll p b s = b.intercalate (gaps p s) := by
  fun_induction gaps p s with
  | case1 => simp [replaceAll, hp]
  | case2 c s h ih =>
    rw [replaceAll, if_neg (by simpa using hp), if_pos h, ih,
      intercalate_nil_cons b (gaps_ne_nil p _)]
  | case3 c s h ih =>
    rw [replaceAll, if_neg (by simpa using hp), if_neg h, ih,
      intercalate_modifyHead_cons b c (gaps_ne_nil p s)]

theorem replaceAll_self {p : Text} (hp : p ≠ []) (b : Text) : replaceAll p b p = b := by
  have h := replaceAll_append hp b []
  rw [List.append_nil] at h
  simpa [replaceAll, hp] using h

/-- What stands in a gap stands in the whole. -/
theorem mem_intercalate {b u : Text} {us : List Text} {c : Char} (hu : u ∈ us) (hc : c ∈ u) :
    c ∈ b.intercalate us := by
  induction us with
  | nil => cases hu
  | cons v us ih =>
    by_cases h : us = []
    · subst h
      rw [List.mem_singleton] at hu
      subst hu
      simpa using hc
    · rw [List.intercalate_cons_of_ne_nil h]
      rcases List.mem_cons.1 hu with rfl | hu
      · simp [hc]
      · simp [ih hu]

/-- What stands in the whole stands in a gap, or in what is put between them. -/
theorem of_mem_intercalate {b : Text} {us : List Text} {c : Char} (h : c ∈ b.intercalate us) :
    c ∈ b ∨ ∃ u ∈ us, c ∈ u := by
  induction us with
  | nil => cases h
  | cons v us ih =>
    by_cases hne : us = []
    · subst hne
      rw [List.intercalate_singleton] at h
      exact .inr ⟨v, by simp, h⟩
    · rw [List.intercalate_cons_of_ne_nil hne, List.mem_append, List.mem_append] at h
      rcases h with (h | h) | h
      · exact .inr ⟨v, by simp, h⟩
      · exact .inl h
      · exact (ih h).imp_right fun ⟨u, hu, hc⟩ => ⟨u, List.mem_cons_of_mem v hu, hc⟩

/-- A filter that keeps the text keeps the gaps, and filters what is put between them. -/
theorem filter_replaceAll {p : Text} (hp : p ≠ []) (b : Text) {s : Text} {q : Char → Bool}
    (h : ∀ c ∈ s, q c = true) : (replaceAll p b s).filter q = replaceAll p (b.filter q) s := by
  rw [replaceAll_eq_intercalate hp, replaceAll_eq_intercalate hp]
  have hus : ∀ u ∈ gaps p s, u.filter q = u := fun u hu =>
    List.filter_eq_self.2 fun c hc => h c (intercalate_gaps hp s ▸ mem_intercalate hu hc)
  generalize gaps p s = us at hus
  induction us with
  | nil => rfl
  | cons u us ih =>
    have hu := hus u List.mem_cons_self
    by_cases hne : us = []
    · subst hne
      simpa using hu
    · rw [List.intercalate_cons_of_ne_nil hne, List.intercalate_cons_of_ne_nil hne,
        List.filter_append, List.filter_append, hu,
        ih fun v hv => hus v (List.mem_cons_of_mem u hv)]

/-- Characters before the first place where `p` can start are passed over. -/
theorem replaceAll_append_of_notMem {d : Char} {p x : Text} (h : d ∉ x) (b t : Text) :
    replaceAll (d :: p) b (x ++ t) = x ++ replaceAll (d :: p) b t := by
  induction x with
  | nil => rfl
  | cons c x ih =>
    rw [List.mem_cons, not_or] at h
    have hpre : (d :: p).isPrefixOf (c :: (x ++ t)) = false := by simp [List.isPrefixOf, h.1]
    rw [List.cons_append, replaceAll, if_neg (by simp), if_neg (by simp [hpre]), ih h.2]
    rfl

/-! ## The first occurrence of a character -/

theorem cut_fst (c : Char) (t : Text) : (cut c t).1 = t.takeWhile (· != c) := by
  unfold cut
  rw [List.span_eq_takeWhile_dropWhile]
  split <;> rename_i h <;> exact (Prod.mk.inj h).1.symm

theorem cut_of_notMem {c : Char} {t : Text} (h : c ∉ t) : cut c t = (t, none) := by
  have hall : ∀ d ∈ t, (d != c) = true := fun d hd => by
    rw [bne_iff_ne]
    rintro rfl
    exact h hd
  simp [cut, List.span_eq_takeWhile_dropWhile, List.takeWhile_eq_self_iff.2 hall,
    List.dropWhile_eq_nil_iff.2 hall]

theorem cut_append_cons {c : Char} {t : Text} (h : c ∉ t) (rest : Text) :
    cut c (t ++ c :: rest) = (t, some rest) := by
  have hall : ∀ d ∈ t, (d != c) = true := fun d hd => by
    rw [bne_iff_ne]
    rintro rfl
    exact h hd
  simp [cut, List.span_eq_takeWhile_dropWhile, List.takeWhile_append_of_pos hall,
    List.dropWhile_append_of_pos hall]

/-- A text is what it is cut into. -/
theorem append_cut (c : Char) (t : Text) : (cut c t).1 ++ (cut c t).2.elim [] (c :: ·) = t := by
  by_cases h : c ∈ t
  · obtain ⟨a, b, rfl, ha⟩ := List.eq_append_cons_of_mem h
    rw [cut_append_cons ha]
    rfl
  · rw [cut_of_notMem h]
    exact List.append_nil t

end CredentialGateway.Text
