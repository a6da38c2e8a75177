import CredentialGateway.Path.DotSegment
import CredentialGateway.Proofs.Encoding
import CredentialGateway.Url.Path
import Mathlib.Data.List.Induction

/-!
# Segments and the paths they make

A path is cut at its separators and printed with a slash before each segment.  The two are put in
relation here: what cutting does to a path that is put together, and what printing makes of it.

    segments (a ++ '/' :: b) = segments a ++ segments b                      (segments_append_slash)
    segments (a ++ b) = (segments a).dropLast ++ segments (lastSegment a ++ b)     (segments_append)
    print of the segments of t, each encoded = '/' :: written t              (print_map_segments)
-/

namespace CredentialGateway

/-! ## Cutting -/

/-- No part between separators holds one, and each is a part of the text. -/
theorem Text.of_mem_splitOnP {p : Char → Bool} {t s : Text} (hs : s ∈ t.splitOnP p) {c : Char}
    (hc : c ∈ s) : p c = false ∧ c ∈ t := by
  induction t generalizing s with
  | nil =>
    rw [List.splitOnP_nil, List.mem_singleton] at hs
    subst hs
    cases hc
  | cons d t ih =>
    rw [List.splitOnP_cons_eq_if_modifyHead] at hs
    split at hs
    · rcases List.mem_cons.1 hs with rfl | hs
      · cases hc
      · exact ⟨(ih hs hc).1, List.mem_cons_of_mem d (ih hs hc).2⟩
    · rename_i hd
      obtain ⟨x, xs, hx⟩ := List.exists_cons_of_ne_nil (List.splitOnP_ne_nil p t)
      rw [hx, List.modifyHead_cons] at hs
      rcases List.mem_cons.1 hs with rfl | hs
      · rcases List.mem_cons.1 hc with rfl | hc
        · exact ⟨by simpa using hd, List.mem_cons_self⟩
        · have := ih (hx ▸ List.mem_cons_self) hc
          exact ⟨this.1, List.mem_cons_of_mem d this.2⟩
      · have := ih (hx ▸ List.mem_cons_of_mem x hs) hc
        exact ⟨this.1, List.mem_cons_of_mem d this.2⟩

namespace Path

/-- What stands behind the last separator of a path. -/
def lastSegment (path : Text) : Text := (segments path).getLastD []

theorem segments_ne_nil (t : Text) : segments t ≠ [] := List.splitOnP_ne_nil _ _

theorem segments_cons (c : Char) (t : Text) : segments (c :: t) =
    if isSeparator c then [] :: segments t else (segments t).modifyHead (c :: ·) :=
  List.splitOnP_cons_eq_if_modifyHead c t

theorem segments_append_slash (a b : Text) :
    segments (a ++ '/' :: b) = segments a ++ segments b :=
  List.splitOnP_append_cons a b rfl

theorem segments_slash (t : Text) : segments ('/' :: t) = [] :: segments t :=
  segments_append_slash [] t

theorem segments_of_forall {s : Text} (h : ∀ c ∈ s, isSeparator c = false) : segments s = [s] :=
  List.splitOnP_eq_singleton h

theorem segments_cases (t : Text) : ∃ s ss, segments t = s :: ss :=
  List.exists_cons_of_ne_nil (segments_ne_nil t)

theorem eq_nil_of_segments {t : Text} (h : segments t = [[]]) : t = [] := by
  cases t with
  | nil => rfl
  | cons c t =>
    obtain ⟨x, xs, hx⟩ := segments_cases t
    rw [segments_cons, hx] at h
    split at h <;> cases h

/-- No segment holds a separator, and each is a part of the path. -/
theorem of_mem_segments {t s : Text} (hs : s ∈ segments t) {c : Char} (hc : c ∈ s) :
    isSeparator c = false ∧ c ∈ t := Text.of_mem_splitOnP hs hc

/-- A filter that keeps the separators keeps the cuts. -/
theorem segments_filter {q : Char → Bool} (h : ∀ c, isSeparator c = true → q c = true) (t : Text) :
    segments (t.filter q) = (segments t).map (List.filter q) := by
  induction t with
  | nil => rfl
  | cons c t ih =>
    obtain ⟨x, xs, hx⟩ := segments_cases t
    rw [hx, List.map_cons] at ih
    rw [segments_cons, hx]
    by_cases hq : q c = true
    · rw [List.filter_cons_of_pos hq, segments_cons, ih]
      split
      · simp
      · simp [hq]
    · have hc : ¬ isSeparator c = true := fun hs => hq (h c hs)
      rw [List.filter_cons_of_neg hq, ih, if_neg hc, List.modifyHead_cons, List.map_cons,
        List.filter_cons_of_neg hq]

/-- What follows a path goes on with its last segment. -/
theorem segments_append (a b : Text) :
    segments (a ++ b) = (segments a).dropLast ++ segments (lastSegment a ++ b) := by
  unfold lastSegment
  induction a with
  | nil => simp [segments]
  | cons c a ih =>
    obtain ⟨x, xs, hx⟩ := segments_cases a
    rw [List.cons_append, segments_cons, segments_cons, ih, hx]
    split
    · simp
    · rename_i hc
      cases xs with
      | nil => simp [segments_cons, hc]
      | cons y ys => simp

/-- Text without separators goes in front of the first segment. -/
theorem segments_append_of_forall {l : Text} (h : ∀ c ∈ l, isSeparator c = false) (t : Text) :
    segments (l ++ t) = (segments t).modifyHead (l ++ ·) := by
  obtain ⟨x, xs, hx⟩ := segments_cases t
  induction l with
  | nil => simp [hx]
  | cons c l ih =>
    rw [List.cons_append, segments_cons, if_neg (by simp [h c (by simp)]),
      ih fun d hd => h d (by simp [hd]), hx]
    rfl

theorem dropLast_append_lastSegment (t : Text) :
    (segments t).dropLast ++ [lastSegment t] = segments t := by
  obtain ⟨x, xs, hx⟩ := segments_cases t
  unfold lastSegment
  rw [hx, List.getLastD_cons, ← List.getLast_eq_getLastD]
  exact List.dropLast_concat_getLast (by simp)

theorem lastSegment_mem (t : Text) : lastSegment t ∈ segments t := by
  rw [← dropLast_append_lastSegment t]
  simp

theorem lastSegment_slash (t : Text) : lastSegment ('/' :: t) = lastSegment t := by
  obtain ⟨x, xs, hx⟩ := segments_cases t
  rw [lastSegment, lastSegment, segments_slash, hx]
  rfl

theorem isSeparator_of_mem_lastSegment {t : Text} {c : Char} (h : c ∈ lastSegment t) :
    isSeparator c = false := (of_mem_segments (lastSegment_mem t) h).1

end Path

/-! ## Printing -/

namespace UrlPath

theorem isSeparator_true : isSeparator true = Path.isSeparator := by
  funext c
  simp [isSeparator, Path.isSeparator]

/-- Under the special schemes a URL cuts a path as the gateway does, but for a separator in front. -/
theorem segments_true_cons (c : Char) (t : Text) :
    segments true (c :: t) = Path.segments (if Path.isSeparator c then t else c :: t) := by
  rw [segments, isSeparator_true, Path.segments]

theorem segments_slash (t : Text) : segments true ('/' :: t) = Path.segments t :=
  segments_true_cons '/' t

@[simp] theorem print_nil : print [] = [] := rfl

theorem print_cons (s : Text) (ss : List Text) : print (s :: ss) = '/' :: s ++ print ss :=
  List.flatMap_cons

theorem print_append (ss ts : List Text) : print (ss ++ ts) = print ss ++ print ts :=
  List.flatMap_append

/-- A printed path is cut into the segments it was printed from. -/
theorem segments_print_append {ss : List Text}
    (h : ∀ s ∈ ss, ∀ c ∈ s, Path.isSeparator c = false) (t : Text) :
    segments true (print ss ++ '/' :: t) = ss ++ Path.segments t := by
  have cut (s : Text) (ss : List Text) (h : ∀ x ∈ s :: ss, ∀ c ∈ x, Path.isSeparator c = false) :
      Path.segments (s ++ (print ss ++ '/' :: t)) = s :: (ss ++ Path.segments t) := by
    induction ss generalizing s with
    | nil =>
      rw [print, List.flatMap_nil, List.nil_append, Path.segments_append_slash,
        Path.segments_of_forall (h s (by simp))]
      rfl
    | cons r ss ih =>
      rw [print_cons, List.cons_append, List.cons_append, List.append_assoc,
        Path.segments_append_slash, Path.segments_of_forall (h s (by simp)),
        ih r fun x hx => h x (List.mem_cons_of_mem s hx)]
      rfl
  cases ss with
  | nil => exact segments_slash t
  | cons s ss =>
    rw [print_cons, List.cons_append, List.cons_append, List.append_assoc, segments_slash]
    exact cut s ss h

/-- What is printed up to a slash is a whole number of segments. -/
theorem prefix_of_print_append {xs ss : List Text} (hx : ∀ s ∈ xs, '/' ∉ s)
    (hs : ∀ s ∈ ss, '/' ∉ s) {y : Text} (h : print xs ++ '/' :: y <+: print ss) : xs <+: ss := by
  induction xs generalizing ss with
  | nil => exact List.nil_prefix
  | cons x xs ih =>
    cases ss with
    | nil => simp [print] at h
    | cons s ss =>
      have hxs : ∃ t, print xs ++ '/' :: y = '/' :: t := by
        cases xs with
        | nil => exact ⟨y, rfl⟩
        | cons z zs => exact ⟨z ++ print zs ++ '/' :: y, by simp [print_cons]⟩
      obtain ⟨t, ht⟩ := hxs
      obtain ⟨u, hu⟩ := h
      have hu : x ++ (print xs ++ '/' :: y ++ u) = s ++ print ss := by
        simpa [print_cons] using hu
      rw [ht] at hu
      -- the first segments end at the same slash
      have he : x = s := by
        rcases List.append_eq_append_iff.1 hu with ⟨a, ha, hb⟩ | ⟨a, ha, hb⟩
        · cases a with
          | nil => simpa using ha.symm
          | cons c a =>
            rw [List.cons_append, List.cons_append, List.cons.injEq] at hb
            exact absurd (show '/' ∈ s by simp [ha, ← hb.1]) (hs s (by simp))
        · cases a with
          | nil => simpa using ha
          | cons c a =>
            exfalso
            cases ss with
            | nil => cases hb
            | cons z zs =>
              rw [print_cons, List.cons_append, List.cons_append, List.cons.injEq] at hb
              exact hx x (by simp) (by simp [ha, ← hb.1])
      subst he
      have hrest := List.append_cancel_left hu
      refine List.cons_prefix_cons.2 ⟨rfl, ih (fun z hz => hx z (by simp [hz]))
        (fun z hz => hs z (by simp [hz])) ⟨u, ?_⟩⟩
      rw [ht]
      exact hrest

/-- Without trailing slashes a printed path is what some of its first segments print. -/
theorem dropTrailing_print {ss : List Text} (h : ∀ s ∈ ss, '/' ∉ s) :
    ∃ ts, ts <+: ss ∧ Text.dropTrailing '/' (print ss) = print ts := by
  induction ss using List.reverseRecOn with
  | nil => exact ⟨[], List.prefix_refl _, rfl⟩
  | append_singleton ss s ih =>
    rw [print_append, print_cons, Text.dropTrailing]
    by_cases hs : s = []
    · subst hs
      obtain ⟨ts, hts, he⟩ := ih fun x hx => h x (by simp [hx])
      refine ⟨ts, hts.trans (List.prefix_append _ _), ?_⟩
      rw [← he, Text.dropTrailing]
      simp [print]
    · refine ⟨ss ++ [s], List.prefix_refl _, ?_⟩
      obtain ⟨t, c, rfl⟩ : ∃ t c, s = t ++ [c] := ⟨_, _, (List.dropLast_concat_getLast hs).symm⟩
      have hc : c ≠ '/' := fun hc => h (t ++ [c]) (by simp) (by simp [hc])
      rw [print_append, print_cons]
      simp [print, hc]

/-! ## Written form -/

/-- A backslash is written as a slash. -/
def slashed (c : Char) : Char := if c = '\\' then '/' else c

/-- A path as a URL writes it if nothing is to be resolved. -/
def written (path : Text) : Text := Percent.encode Percent.pathSet (path.map slashed)

theorem written_cons (c : Char) (t : Text) :
    written (c :: t) = Percent.encodeChar Percent.pathSet (slashed c) ++ written t :=
  Percent.encode_cons _ _ _

/-- The segments of a path, each encoded, print its written form behind a slash. -/
theorem print_map_segments (t : Text) :
    print ((Path.segments t).map (Percent.encode Percent.pathSet)) = '/' :: written t := by
  induction t with
  | nil => rfl
  | cons c t ih =>
    rw [Path.segments_cons, written_cons]
    by_cases hc : Path.isSeparator c = true
    · have hs : slashed c = '/' := by
        simp only [Path.isSeparator, Bool.or_eq_true, beq_iff_eq] at hc
        rcases hc with rfl | rfl <;> rfl
      rw [if_pos hc, List.map_cons, print_cons, ih, hs]
      rfl
    · have hs : slashed c = c := by
        simp only [Path.isSeparator, Bool.or_eq_true, beq_iff_eq, not_or] at hc
        rw [slashed, if_neg hc.2]
      obtain ⟨x, xs, hx⟩ := Path.segments_cases t
      rw [hx, List.map_cons, print_cons] at ih
      rw [if_neg hc, hx, List.modifyHead_cons, List.map_cons, print_cons, Percent.encode_cons, hs]
      simpa using (List.cons.inj ih).2

end UrlPath

end CredentialGateway
