import CredentialGateway.Proofs.NormalPath
import CredentialGateway.Proofs.Occurrences

/-!
# Relocated paths

In a path without dot segments every occurrence of one text is replaced by another, and the result
is resolved.  Replacement joins the end of the new text to what stood behind the old one, so the
segments have to be looked at again.  They are read one after the other with the height they have
reached at the least: a plain segment rises by one, a step up falls by one.

What has been kept before a walk that never steps below its start stays.

    each segment allowed at its height, and so each join →
      the segments of the relocated path are allowed at theirs             (passes_relocated)
    no step up from height 0 → the ground stays                      (resolveOnto_of_passes)
-/

namespace CredentialGateway.UrlPath

/-! ## Heights -/

/-- The height after one more segment. -/
def rise (h : Nat) (s : Text) : Nat :=
  match meaning s with
  | .here => h
  | .up => h - 1
  | .plain => h + 1

theorem rise_of_here {s : Text} (hs : meaning s = .here) (h : Nat) : rise h s = h := by
  rw [rise, hs]

theorem rise_of_up {s : Text} (hs : meaning s = .up) (h : Nat) : rise h s = h - 1 := by
  rw [rise, hs]

theorem rise_of_plain {s : Text} (hs : meaning s = .plain) (h : Nat) : rise h s = h + 1 := by
  rw [rise, hs]

/-- Each segment is allowed at the height at which it is reached. -/
def Passes (ok : Nat → Text → Prop) : Nat → List Text → Prop
  | _, [] => True
  | h, s :: rest => ok h s ∧ Passes ok (rise h s) rest

section Heights

variable {ok : Nat → Text → Prop}

theorem passes_append {h : Nat} {as bs : List Text} :
    Passes ok h (as ++ bs) ↔ Passes ok h as ∧ Passes ok (as.foldl rise h) bs := by
  induction as generalizing h with
  | nil => simp [Passes]
  | cons a as ih => simp [Passes, ih, and_assoc]

/-- What does not look at the height is asked of each segment. -/
theorem passes_iff_forall {q : Text → Prop} {h : Nat} {ss : List Text} :
    Passes (fun _ => q) h ss ↔ ∀ s ∈ ss, q s := by
  induction ss generalizing h with
  | nil => simp [Passes]
  | cons s ss ih => simp [Passes, ih]

theorem passes_of_plain (hok : ∀ h s, meaning s = .plain → ok h s) {ss : List Text}
    (hs : ∀ s ∈ ss, meaning s = .plain) (h : Nat) : Passes ok h ss := by
  induction ss generalizing h with
  | nil => trivial
  | cons s ss ih => exact ⟨hok h s (hs s (by simp)), ih (fun x hx => hs x (by simp [hx])) _⟩

theorem foldl_rise_of_plain {ss : List Text} (hs : ∀ s ∈ ss, meaning s = .plain) (h : Nat) :
    ss.foldl rise h = h + ss.length := by
  induction ss generalizing h with
  | nil => rfl
  | cons s ss ih =>
    rw [List.foldl_cons, rise_of_plain (hs s (by simp)), ih fun x hx => hs x (by simp [hx]),
      List.length_cons]
    omega

end Heights

/-! ## The ground -/

/-- Steps up are for segments that stand above the ground. -/
def AboveGround (h : Nat) (s : Text) : Prop := meaning s = .up → 0 < h

theorem aboveGround_of_plain (h : Nat) (s : Text) (hs : meaning s = .plain) : AboveGround h s :=
  fun hu => by rw [hs] at hu; cases hu

/-- A step up takes at most one segment, and it takes that of the top. -/
theorem pop_append {top : List Text} (ground : List Text) (h : top ≠ []) :
    ∃ top', top.length - 1 ≤ top'.length ∧ pop (top ++ ground) = top' ++ ground := by
  obtain ⟨s, top, rfl⟩ := List.exists_cons_of_ne_nil h
  rw [List.cons_append, pop]
  split
  · exact ⟨s :: top, by simp, rfl⟩
  · exact ⟨top, by simp, rfl⟩

/-- The ground stays if no step up is taken from it. -/
theorem resolveOnto_of_passes (ground : List Text) {ss : List Text} {h : Nat}
    (hp : Passes AboveGround h ss) (top : List Text) (htop : h ≤ top.length) :
    ∃ more, resolveOnto (top ++ ground) ss = ground.reverse ++ more := by
  induction ss generalizing h top with
  | nil => exact ⟨top.reverse, by simp [resolveOnto]⟩
  | cons s rest ih =>
    obtain ⟨hs, hp⟩ := hp
    cases hm : meaning s with
    | here =>
      rw [rise_of_here hm] at hp
      rw [resolveOnto_here hm]
      split
      · exact ⟨top.reverse ++ [[]], by simp⟩
      · exact ih hp top htop
    | up =>
      rw [rise_of_up hm] at hp
      have hne : top ≠ [] := by
        rintro rfl
        have h0 := hs hm
        rw [List.length_nil] at htop
        omega
      obtain ⟨top', hlen, hpop⟩ := pop_append ground hne
      rw [resolveOnto_up hm, hpop]
      split
      · exact ⟨top'.reverse ++ [[]], by simp⟩
      · exact ih hp top' (by omega)
    | plain =>
      rw [rise_of_plain hm] at hp
      rw [resolveOnto_plain hm]
      exact ih hp (Percent.encode Percent.pathSet s :: top) (by simpa using htop)

/-- A ground that no step up takes away stays whatever is resolved on it, and something is added. -/
theorem resolveOnto_of_pop {ground : List Text} (hg : pop ground = ground) {ss : List Text}
    (hs : ss ≠ []) (top : List Text) :
    ∃ more, more ≠ [] ∧ resolveOnto (top ++ ground) ss = ground.reverse ++ more := by
  -- behind a dot segment the ground is as before, and at the end the empty segment is added
  have onward (top rest : List Text)
      (ih : rest ≠ [] →
        ∃ more, more ≠ [] ∧ resolveOnto (top ++ ground) rest = ground.reverse ++ more) :
      ∃ more, more ≠ [] ∧ (if rest = [] then (([] : Text) :: (top ++ ground)).reverse
        else resolveOnto (top ++ ground) rest) = ground.reverse ++ more := by
    split
    · exact ⟨top.reverse ++ [[]], by simp, by simp⟩
    · rename_i hr
      exact ih hr
  induction ss generalizing top with
  | nil => exact absurd rfl hs
  | cons s rest ih =>
    cases hm : meaning s with
    | here =>
      rw [resolveOnto_here hm]
      exact onward top rest fun hr => ih hr top
    | up =>
      rw [resolveOnto_up hm]
      have hpop : ∃ top', pop (top ++ ground) = top' ++ ground := by
        cases top with
        | nil => exact ⟨[], by simp [hg]⟩
        | cons t top =>
          obtain ⟨top', -, h⟩ := pop_append ground (List.cons_ne_nil t top)
          exact ⟨top', h⟩
      obtain ⟨top', hpop⟩ := hpop
      rw [hpop]
      exact onward top' rest fun hr => ih hr top'
    | plain =>
      rw [resolveOnto_plain hm]
      cases rest with
      | nil =>
        exact ⟨top.reverse ++ [Percent.encode Percent.pathSet s], by simp, by simp [resolveOnto]⟩
      | cons r rest => exact ih (by simp) (Percent.encode Percent.pathSet s :: top)

/-! ## Joins -/

/-- With `s` in the place of `l` a segment is allowed, if it was plain before. -/
def Fits (ok : Nat → Text → Prop) (h : Nat) (l s : Text) : Prop :=
  ∀ x, meaning (l ++ x) = .plain → ok h (s ++ x)

section Joins

variable {ok : Nat → Text → Prop} (hok : ∀ h s, meaning s = .plain → ok h s)
include hok

theorem passes_join {h : Nat} {l s u : Text} (hfit : Fits ok h l s)
    (hl : ∀ c ∈ l, Path.isSeparator c = false) (hs : ∀ c ∈ s, Path.isSeparator c = false)
    (hplain : ∀ x ∈ Path.segments (l ++ u), meaning x = .plain) :
    Passes ok h (Path.segments (s ++ u)) := by
  obtain ⟨x, xs, hx⟩ := Path.segments_cases u
  rw [Path.segments_append_of_forall hl, hx, List.modifyHead_cons] at hplain
  rw [Path.segments_append_of_forall hs, hx, List.modifyHead_cons]
  exact ⟨hfit x (hplain _ (by simp)), passes_of_plain hok (fun y hy => hplain y (by simp [hy])) _⟩

variable {p b : Text} (hb : ∀ s ∈ (Path.segments b).dropLast, meaning s = .plain)
  (hjoin : ∀ h, (Path.segments b).dropLast.length ≤ h →
    Fits ok h (Path.lastSegment p) (Path.lastSegment b))
include hb hjoin

/-- A plain path is walked again with the new text in the place of the old one.  The induction is on
the gaps; behind each of them the walk goes on with the last segments of the two texts. -/
theorem passes_relocated {us : List Text} (hus : us ≠ []) {h : Nat} {l s : Text}
    (hfit : Fits ok h l s) (hl : ∀ c ∈ l, Path.isSeparator c = false)
    (hs : ∀ c ∈ s, Path.isSeparator c = false)
    (hplain : ∀ x ∈ Path.segments (l ++ List.intercalate ('/' :: p) us), meaning x = .plain) :
    Passes ok h (Path.segments (s ++ List.intercalate ('/' :: b) us)) := by
  induction us generalizing h l s with
  | nil => exact absurd rfl hus
  | cons u us ih =>
    by_cases hne : us = []
    · subst hne
      rw [List.intercalate_singleton] at hplain ⊢
      exact passes_join hok hfit hl hs hplain
    · have cut (l p : Text) : Path.segments (l ++ List.intercalate ('/' :: p) (u :: us)) =
          Path.segments (l ++ u) ++ ((Path.segments p).dropLast ++
            Path.segments (Path.lastSegment p ++ List.intercalate ('/' :: p) us)) := by
        rw [← Path.segments_append, ← Path.segments_append_slash,
          List.intercalate_cons_of_ne_nil hne]
        simp
      rw [cut] at hplain ⊢
      rw [passes_append, passes_append]
      refine ⟨passes_join hok hfit hl hs fun x hx => hplain x (by simp [hx]),
        passes_of_plain hok hb _, ih hne (hjoin _ ?_) (fun c => Path.isSeparator_of_mem_lastSegment)
          (fun c => Path.isSeparator_of_mem_lastSegment) fun x hx => hplain x (by simp [hx])⟩
      rw [foldl_rise_of_plain hb]
      omega

/-- The same behind a slash at the front of the whole path, which does not count as a segment. -/
theorem passes_relocated_slash {us : List Text} (hus : us ≠ []) {r w : Text}
    (hr : List.intercalate ('/' :: p) us = '/' :: r)
    (hw : List.intercalate ('/' :: b) us = '/' :: w)
    (hplain : ∀ x ∈ Path.segments r, meaning x = .plain) (h : Nat) :
    Passes ok h (Path.segments w) := by
  obtain ⟨u, us, rfl⟩ := List.exists_cons_of_ne_nil hus
  cases u with
  | nil =>
    have hne : us ≠ [] := by
      rintro rfl
      cases hr
    rw [List.intercalate_cons_of_ne_nil hne] at hr hw
    simp only [List.nil_append, List.cons_append, List.cons.injEq, true_and] at hr hw
    subst hr hw
    rw [Path.segments_append] at hplain
    rw [Path.segments_append, passes_append]
    refine ⟨passes_of_plain hok hb _, passes_relocated hok hb hjoin hne (hjoin _ ?_)
      (fun c => Path.isSeparator_of_mem_lastSegment)
      (fun c => Path.isSeparator_of_mem_lastSegment) fun x hx => hplain x (by simp [hx])⟩
    rw [foldl_rise_of_plain hb]
    omega
  | cons c u =>
    rw [List.intercalate_cons_cons_left, List.cons.injEq] at hr hw
    rw [← hw.2]
    refine passes_relocated (l := []) (s := []) hok hb hjoin (by simp) (fun x hx => hok h x hx)
      (by simp) (by simp) ?_
    rw [List.nil_append, hr.2]
    exact hplain

end Joins

end CredentialGateway.UrlPath
