import CredentialGateway.Proofs.DotSegment
import CredentialGateway.Proofs.PathSegments

/-!
# Normal paths

A segment is normal if it is no dot segment, holds no separator, and has nothing to be encoded.
Resolving leaves normal segments, and what they print is left alone when it is read again.  So a
path set behind a normal one is resolved on top of its segments.

    normalize of (print ts ++ path) = print (resolveOnto ts.reverse (segments of path))
                                                                       (normalize_print_append)
-/

namespace CredentialGateway.UrlPath

/-- Neither resolving nor encoding touches the segment. -/
structure IsNormal (s : Text) : Prop where
  plain : meaning s = .plain
  chars : ∀ c ∈ s, Percent.pathSet c = false ∧ Path.isSeparator c = false

/-! ## Normal segments -/

theorem isNormal_nil : IsNormal [] := ⟨rfl, by simp⟩

theorem encode_of_isNormal {s : Text} (h : IsNormal s) : Percent.encode Percent.pathSet s = s :=
  Percent.encode_of_forall fun c hc => (h.chars c hc).1

theorem isNormal_encode {s : Text} (h : meaning s = .plain)
    (hs : ∀ c ∈ s, Path.isSeparator c = false) : IsNormal (Percent.encode Percent.pathSet s) := by
  have every : ∀ d ∈ Percent.codeChars, Path.isSeparator d = false := Text.of_all (by decide)
  refine ⟨meaning_encode.2 h, fun c hc => ⟨Percent.pathSet_of_mem_encode hc, ?_⟩⟩
  rcases Percent.mem_encode hc with hc | hc
  · exact hs c hc.1
  · exact every c hc

theorem map_encode_of_isNormal {ss : List Text} (h : ∀ s ∈ ss, IsNormal s) :
    ss.map (Percent.encode Percent.pathSet) = ss := by
  conv => rhs; rw [← List.map_id ss]
  exact List.map_congr_left fun s hs => encode_of_isNormal (h s hs)

/-- What a path prints is slashes and the characters of its segments. -/
theorem mem_print {ss : List Text} {c : Char} (h : c ∈ print ss) : c = '/' ∨ ∃ s ∈ ss, c ∈ s := by
  obtain ⟨s, hs, hc⟩ := List.mem_flatMap.1 h
  rcases List.mem_cons.1 hc with hc | hc
  · exact .inl hc
  · exact .inr ⟨s, hs, hc⟩

/-! ## Characters that are passed over -/

/-- What none of the three characters satisfies leaves no character to be passed over. -/
theorem isIgnored_of_any {q : Char → Bool} (hq : ['\t', '\n', '\r'].any q = false) {c : Char}
    (h : q c = true) : isIgnored c = false := by
  rw [Bool.eq_false_iff]
  intro hi
  have hc : c ∈ ['\t', '\n', '\r'] := by simpa [isIgnored, or_assoc] using hi
  rw [List.any_eq_true.2 ⟨c, hc, h⟩] at hq
  cases hq

theorem filter_of_forall {t : Text} (h : ∀ c ∈ t, isIgnored c = false) :
    t.filter (!isIgnored ·) = t :=
  List.filter_eq_self.2 fun c hc => by rw [h c hc]; rfl

/-- The URL encodes what it passes over. -/
theorem isIgnored_of_pathSet {c : Char} (h : Percent.pathSet c = false) : isIgnored c = false :=
  isIgnored_of_any (q := (!Percent.pathSet ·)) (by decide) (by rw [h]; rfl)

theorem isIgnored_of_mem_print {ss : List Text} (h : ∀ s ∈ ss, IsNormal s) {c : Char}
    (hc : c ∈ print ss) : isIgnored c = false := by
  rcases mem_print hc with rfl | ⟨s, hs, hc⟩
  · decide
  · exact isIgnored_of_pathSet ((h s hs).chars c hc).1

/-! ## Resolving -/

theorem resolveOnto_plain {s : Text} (h : meaning s = .plain) (kept rest : List Text) :
    resolveOnto kept (s :: rest) =
      resolveOnto (Percent.encode Percent.pathSet s :: kept) rest := by
  rw [resolveOnto, h]

theorem resolveOnto_here {s : Text} (h : meaning s = .here) (kept rest : List Text) :
    resolveOnto kept (s :: rest) =
      if rest = [] then (([] : Text) :: kept).reverse else resolveOnto kept rest := by
  rw [resolveOnto, h]

theorem resolveOnto_up {s : Text} (h : meaning s = .up) (kept rest : List Text) :
    resolveOnto kept (s :: rest) =
      if rest = [] then (([] : Text) :: pop kept).reverse else resolveOnto (pop kept) rest := by
  rw [resolveOnto, h]

theorem mem_of_mem_pop {kept : List Text} {s : Text} (h : s ∈ pop kept) : s ∈ kept := by
  unfold pop at h
  split at h
  · cases h
  · split at h
    · exact h
    · exact List.mem_cons_of_mem _ h

/-- A step up takes text away, or it takes nothing. -/
theorem length_print_pop (kept : List Text) : pop kept = kept ∨
    (print (pop kept).reverse).length < (print kept.reverse).length := by
  cases kept with
  | nil => exact .inl rfl
  | cons s kept =>
    rw [pop]
    split
    · exact .inl rfl
    · right
      rw [List.reverse_cons, print_append, print_cons]
      simp

/-- Plain segments are kept, whatever follows. -/
theorem resolveOnto_append_plain {ss : List Text} (h : ∀ s ∈ ss, meaning s = .plain)
    (kept rest : List Text) : resolveOnto kept (ss ++ rest) =
      resolveOnto ((ss.map (Percent.encode Percent.pathSet)).reverse ++ kept) rest := by
  induction ss generalizing kept with
  | nil => rfl
  | cons s ss ih =>
    rw [List.cons_append, resolveOnto_plain (h s (by simp)), ih fun x hx => h x (by simp [hx])]
    simp

/-- What holds of the kept segments, of the encoded plain ones and of the empty one holds of all
that stay. -/
theorem forall_mem_resolveOnto {q : Text → Prop} (hnil : q []) {kept ss : List Text}
    (hk : ∀ s ∈ kept, q s)
    (hs : ∀ s ∈ ss, meaning s = .plain → q (Percent.encode Percent.pathSet s)) :
    ∀ s ∈ resolveOnto kept ss, q s := by
  -- a dot segment leaves the segments kept after it, or those and the empty one
  have onward (kept rest : List Text) (hk : ∀ s ∈ kept, q s)
      (ih : ∀ s ∈ resolveOnto kept rest, q s) :
      ∀ s ∈ if rest = [] then (([] : Text) :: kept).reverse else resolveOnto kept rest, q s := by
    intro s hm
    split at hm
    · rcases List.mem_cons.1 (List.mem_reverse.1 hm) with rfl | hm
      · exact hnil
      · exact hk s hm
    · exact ih s hm
  induction ss generalizing kept with
  | nil =>
    intro s hm
    exact hk s (List.mem_reverse.1 hm)
  | cons x rest ih =>
    have hrest : ∀ s ∈ rest, meaning s = .plain → q (Percent.encode Percent.pathSet s) :=
      fun s h => hs s (by simp [h])
    cases hx : meaning x with
    | here =>
      rw [resolveOnto_here hx]
      exact onward kept rest hk (ih hk hrest)
    | up =>
      have hp : ∀ s ∈ pop kept, q s := fun s h => hk s (mem_of_mem_pop h)
      rw [resolveOnto_up hx]
      exact onward (pop kept) rest hp (ih hp hrest)
    | plain =>
      rw [resolveOnto_plain hx]
      refine ih (fun s h => ?_) hrest
      rcases List.mem_cons.1 h with rfl | h
      · exact hs x (by simp) hx
      · exact hk s h

/-- Only normal segments stay. -/
theorem isNormal_of_mem_resolveOnto {kept ss : List Text} (hk : ∀ s ∈ kept, IsNormal s)
    (hs : ∀ s ∈ ss, ∀ c ∈ s, Path.isSeparator c = false) :
    ∀ s ∈ resolveOnto kept ss, IsNormal s :=
  forall_mem_resolveOnto isNormal_nil hk fun s hm h => isNormal_encode h (hs s hm)

/-- Some segment stays of every path. -/
theorem resolveOnto_ne_nil {ss : List Text} (h : ss ≠ []) (kept : List Text) :
    resolveOnto kept ss ≠ [] := by
  induction ss generalizing kept with
  | nil => exact absurd rfl h
  | cons x rest ih =>
    cases hx : meaning x with
    | here =>
      rw [resolveOnto_here hx]
      split
      · simp
      · rename_i hr
        exact ih hr kept
    | up =>
      rw [resolveOnto_up hx]
      split
      · simp
      · rename_i hr
        exact ih hr (pop kept)
    | plain =>
      rw [resolveOnto_plain hx]
      cases rest with
      | nil => simp [resolveOnto]
      | cons y rest => exact ih (by simp) _

theorem slash_notMem_of_isNormal {s : Text} (h : IsNormal s) : '/' ∉ s := fun hc =>
  absurd (h.chars _ hc).2 (by decide)

/-- A dot segment at the end leaves the empty segment, which is shorter than what it is written
with. -/
theorem length_print_resolveOnto_lt {last : Text} (h : meaning last ≠ .plain) (kept : List Text) :
    (print (resolveOnto kept [last])).length <
      (print (kept.reverse ++ [Percent.encode Percent.pathSet last])).length := by
  have hne : last ≠ [] := fun hnil => h (by rw [hnil]; rfl)
  have hlen : 0 < (Percent.encode Percent.pathSet last).length :=
    List.length_pos_iff.2 fun hnil => hne (Percent.encode_eq_nil_iff.1 hnil)
  have hempty : (print [[]]).length = 1 := rfl
  rw [print_append, List.length_append, print_cons, print_nil, List.append_nil, List.length_cons]
  cases hm : meaning last with
  | here =>
    rw [resolveOnto_here hm, if_pos rfl, List.reverse_cons, print_append, List.length_append]
    omega
  | up =>
    rw [resolveOnto_up hm, if_pos rfl, List.reverse_cons, print_append, List.length_append]
    rcases length_print_pop kept with hpop | hpop
    · rw [hpop]
      omega
    · omega
  | plain => exact absurd hm h

/-- Resolving prints no dot segment, so a path with one is not printed as it stands. -/
theorem not_print_prefix_of_dots {ts ss : List Text} (hts : ∀ s ∈ ts, IsNormal s)
    (hs : ∀ s ∈ ss, ∀ c ∈ s, Path.isSeparator c = false)
    (hdots : ¬ ∀ s ∈ ss, meaning s = .plain) :
    ¬ print (ts ++ ss.map (Percent.encode Percent.pathSet)) <+:
      print (resolveOnto ts.reverse ss) := by
  intro hpre
  have hnormal : ∀ s ∈ resolveOnto ts.reverse ss, IsNormal s :=
    isNormal_of_mem_resolveOnto (fun s hs => hts s (List.mem_reverse.1 hs)) hs
  rcases List.eq_nil_or_concat ss with rfl | ⟨front, last, rfl⟩
  · exact hdots (by simp)
  rw [List.concat_eq_append] at *
  rw [List.map_append, ← List.append_assoc, List.map_singleton] at hpre
  -- what stands before the last slash is printed whole, so only the last segment has dots
  have hfront : ∀ s ∈ front, meaning s = .plain := by
    rw [print_append, print_cons, print_nil, List.append_nil] at hpre
    have hsub := prefix_of_print_append (fun s hm => ?_)
      (fun s hm => slash_notMem_of_isNormal (hnormal s hm)) hpre
    · intro s hm
      have hmem := hsub.subset (List.mem_append_right ts (List.mem_map_of_mem hm))
      exact meaning_encode.1 (hnormal _ hmem).plain
    · rcases List.mem_append.1 hm with hm | hm
      · exact slash_notMem_of_isNormal (hts s hm)
      · obtain ⟨x, hx, rfl⟩ := List.mem_map.1 hm
        intro hc
        rcases Percent.mem_encode hc with hc | hc
        · exact absurd (hs x (by simp [hx]) _ hc.1) (by decide)
        · exact absurd hc (by decide)
  have hlast : meaning last ≠ .plain := fun h => hdots fun s hm => by
    rcases List.mem_append.1 hm with hm | hm
    · exact hfront s hm
    · rw [List.mem_singleton.1 hm]
      exact h
  have hlong := hpre.length_le
  have hshort := length_print_resolveOnto_lt hlast
    ((front.map (Percent.encode Percent.pathSet)).reverse ++ ts.reverse)
  rw [resolveOnto_append_plain hfront] at hlong
  rw [List.reverse_append, List.reverse_reverse, List.reverse_reverse] at hshort
  omega

/-! ## Normal form -/

/-- The normal form of a path prints normal segments, and at least one. -/
theorem normalize_eq_print (t : Text) :
    ∃ ss, ss ≠ [] ∧ (∀ s ∈ ss, IsNormal s) ∧ normalize true t = print ss := by
  refine ⟨resolve (segments true (t.filter (!isIgnored ·))), ?_, ?_, by simp [normalize]⟩
  all_goals generalize t.filter (!isIgnored ·) = t
  · refine resolveOnto_ne_nil ?_ []
    cases t with
    | nil => simp [segments]
    | cons c t => exact List.splitOnP_ne_nil _ _
  · refine isNormal_of_mem_resolveOnto (by simp) fun s hs c hc => ?_
    cases t with
    | nil =>
      obtain rfl := List.mem_singleton.1 hs
      cases hc
    | cons d t =>
      rw [segments_true_cons] at hs
      exact (Path.of_mem_segments hs hc).1

/-- A path behind a normal one, as the URL reads it, has its segments behind those. -/
theorem segments_filter_print_append {ts : List Text} (h : ∀ s ∈ ts, IsNormal s) {x w : Text}
    (hx : x.filter (!isIgnored ·) = '/' :: w) :
    segments true ((print ts ++ x).filter (!isIgnored ·)) = ts ++ Path.segments w := by
  rw [List.filter_append, filter_of_forall fun c hc => isIgnored_of_mem_print h hc, hx]
  exact segments_print_append (fun s hs c hc => ((h s hs).chars c hc).2) w

/-- A path behind a normal one is resolved on top of its segments. -/
theorem normalize_print_append {ts : List Text} (h : ∀ s ∈ ts, IsNormal s) {x w : Text}
    (hx : x.filter (!isIgnored ·) = '/' :: w) :
    normalize true (print ts ++ x) = print (resolveOnto ts.reverse (Path.segments w)) := by
  simp only [normalize, Bool.not_true, Bool.and_false, Bool.false_eq_true, if_false]
  rw [segments_filter_print_append h hx, resolve,
    resolveOnto_append_plain fun s hs => (h s hs).plain, map_encode_of_isNormal h]
  simp

end CredentialGateway.UrlPath
