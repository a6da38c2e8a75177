import CredentialGateway.Proofs.NormalPath
import CredentialGateway.Url.Basic
import Mathlib.Data.List.TakeWhile

/-!
# Reading a path character by character

A URL need not cut a path before it encodes it.  It reads one character after the other, encodes it
as it goes, and asks at each separator and at the end what the segment in hand means, encoded as it
is: it is kept, it is dropped, or it takes the segment before it away.  This is the same as cutting
first, because encoding neither makes dots nor hides them.

So what the gateway asks of a request, decoding each segment and comparing, is whether the URL would
carry anything out.

    read p = the meanings of the segments of p, and what resolving leaves of them
                                                             (meanings_read, segments_read)
    hasDotSegment p ↔ some segment of p is dropped or takes one away    (hasDotSegment_iff_read)
-/

namespace CredentialGateway

namespace UrlPath

/-! ## Algorithm -/

/-- What the segments of a path have been taken for, in order, and the segments that are left. -/
structure Reading where
  meanings : List Meaning
  segments : List Text
  deriving DecidableEq, Repr

/-- The segments kept, newest first, after one more that is taken for this. -/
def carryOut (kept : List Text) (buffer : Text) : Meaning → List Text
  | .here => kept
  | .up => pop kept
  | .plain => buffer :: kept

/-- The segments of a path that ends with one that is taken for this: a dot segment leaves the empty
one behind it. -/
def conclude (kept : List Text) (buffer : Text) (m : Meaning) : List Text :=
  (if m = .plain then carryOut kept buffer m else [] :: carryOut kept buffer m).reverse

/-- Reads on, with the segments kept so far, newest first, and the one in hand, encoded. -/
def scan (kept : List Text) (buffer : Text) : Text → Reading
  | [] => ⟨[meaning buffer], conclude kept buffer (meaning buffer)⟩
  | c :: rest =>
    if isIgnored c then scan kept buffer rest
    else if isSeparator true c then
      let r := scan (carryOut kept buffer (meaning buffer)) [] rest
      ⟨meaning buffer :: r.meanings, r.segments⟩
    else scan kept (buffer ++ Percent.encodeChar Percent.pathSet c) rest

/-- Reads a path; a separator at the front begins the first segment. -/
def read (path : Text) : Reading :=
  match path.dropWhile isIgnored with
  | [] => scan [] [] []
  | c :: rest => scan [] [] (if isSeparator true c then rest else c :: rest)

/-! ## Cutting first -/

/-- Encoding leaves the meaning. -/
theorem meaning_encode_eq (s : Text) :
    meaning (Percent.encode Percent.pathSet s) = meaning s := by
  cases h : meaning s with
  | here => rw [encode_of_dots (meaning_eq_here_iff.1 h), h]
  | up => rw [encode_of_dots (meaning_eq_up_iff.1 h), h]
  | plain => exact meaning_encode.2 h

/-- A segment that is not the last is carried out, and the others are resolved on what is left. -/
theorem resolveOnto_cons {rest : List Text} (h : rest ≠ []) (kept : List Text) (s : Text) :
    resolveOnto kept (s :: rest) = resolveOnto
      (carryOut kept (Percent.encode Percent.pathSet s) (meaning s)) rest := by
  cases hs : meaning s with
  | here => rw [resolveOnto_here hs, if_neg h, carryOut]
  | up => rw [resolveOnto_up hs, if_neg h, carryOut]
  | plain => rw [resolveOnto_plain hs, carryOut]

theorem resolveOnto_singleton (kept : List Text) (s : Text) : resolveOnto kept [s] =
    conclude kept (Percent.encode Percent.pathSet s) (meaning s) := by
  cases hs : meaning s with
  | here => rw [resolveOnto_here hs, if_pos rfl, conclude, if_neg (by simp), carryOut]
  | up => rw [resolveOnto_up hs, if_pos rfl, conclude, if_neg (by simp), carryOut]
  | plain => rw [resolveOnto_plain hs, resolveOnto, conclude, if_pos rfl, carryOut]

/-- Characters that are passed over might as well not be there. -/
theorem scan_filter (kept : List Text) (buffer path : Text) :
    scan kept buffer (path.filter (!isIgnored ·)) = scan kept buffer path := by
  induction path generalizing kept buffer with
  | nil => rfl
  | cons c path ih =>
    by_cases hc : isIgnored c = true
    · rw [List.filter_cons_of_neg (by simp [hc]), ih, scan, if_pos hc]
    · rw [List.filter_cons_of_pos (by simp [hc]), scan, scan, if_neg hc, if_neg hc, ih, ih]

/-- The segment in hand goes on with the first one that is still to be read. -/
theorem scan_encode {path : Text} (h : ∀ c ∈ path, isIgnored c = false) (kept : List Text)
    (s : Text) :
    scan kept (Percent.encode Percent.pathSet s) path =
      ⟨((Path.segments path).modifyHead (s ++ ·)).map meaning,
        resolveOnto kept ((Path.segments path).modifyHead (s ++ ·))⟩ := by
  induction path generalizing kept s with
  | nil =>
    have hs : (Path.segments []).modifyHead (s ++ ·) = [s] := by simp [Path.segments]
    rw [hs, scan, meaning_encode_eq, resolveOnto_singleton]
    rfl
  | cons c path ih =>
    have hpath : ∀ d ∈ path, isIgnored d = false := fun d hd => h d (List.mem_cons_of_mem c hd)
    rw [scan, if_neg (by simp [h c]), Path.segments_cons, isSeparator_true]
    by_cases hc : Path.isSeparator c = true
    · have hnext := ih hpath (carryOut kept (Percent.encode Percent.pathSet s) (meaning s)) []
      have hsame : (Path.segments path).modifyHead ([] ++ ·) = Path.segments path := by
        obtain ⟨x, xs, hx⟩ := Path.segments_cases path
        rw [hx]
        rfl
      rw [hsame, Percent.encode_nil] at hnext
      rw [if_pos hc, if_pos hc, meaning_encode_eq, hnext, List.modifyHead_cons, List.append_nil,
        resolveOnto_cons (Path.segments_ne_nil path)]
      rfl
    · have hnext := ih hpath kept (s ++ [c])
      have hencode : Percent.encode Percent.pathSet (s ++ [c]) =
          Percent.encode Percent.pathSet s ++ Percent.encodeChar Percent.pathSet c := by
        rw [Percent.encode_append, Percent.encode_cons, Percent.encode_nil, List.append_nil]
      obtain ⟨x, xs, hx⟩ := Path.segments_cases path
      rw [if_neg hc, if_neg hc, ← hencode, hnext, hx]
      simp

/-- A path is read as the segments that it is cut into. -/
theorem read_eq (path : Text) :
    read path = ⟨(segments true (path.filter (!isIgnored ·))).map meaning,
      resolve (segments true (path.filter (!isIgnored ·)))⟩ := by
  have hscan (t : Text) : scan [] [] t =
      ⟨(Path.segments (t.filter (!isIgnored ·))).map meaning,
        resolve (Path.segments (t.filter (!isIgnored ·)))⟩ := by
    have hkept : ∀ c ∈ t.filter (!isIgnored ·), isIgnored c = false := fun c hc => by
      simpa using (List.mem_filter.1 hc).2
    have h := scan_encode hkept [] []
    obtain ⟨x, xs, hx⟩ := Path.segments_cases (t.filter (!isIgnored ·))
    rw [Percent.encode_nil, scan_filter, hx] at h
    rw [h, hx]
    rfl
  -- what is passed over at the front is passed over by the filter too
  have hfilter : path.filter (!isIgnored ·) =
      (path.dropWhile isIgnored).filter (!isIgnored ·) := by
    conv => lhs; rw [← List.takeWhile_append_dropWhile (p := isIgnored) (l := path)]
    rw [List.filter_append, List.filter_eq_nil_iff.2 fun c hc => by
      simp [List.mem_takeWhile_imp hc], List.nil_append]
  rw [hfilter, read]
  cases hdrop : path.dropWhile isIgnored with
  | nil => rfl
  | cons c rest =>
    have hc : isIgnored c = false := by
      have := List.head?_dropWhile_not isIgnored path
      rw [hdrop] at this
      simpa using this
    rw [List.filter_cons_of_pos (by simp [hc]), segments_true_cons]
    show scan [] [] (if isSeparator true c then rest else c :: rest) = _
    rw [isSeparator_true]
    by_cases hs : Path.isSeparator c = true
    · rw [if_pos hs, if_pos hs, hscan]
    · rw [if_neg hs, if_neg hs, hscan, List.filter_cons_of_pos (by simp [hc])]

theorem meanings_read (path : Text) :
    (read path).meanings = (segments true (path.filter (!isIgnored ·))).map meaning := by
  rw [read_eq]

theorem segments_read (path : Text) :
    (read path).segments = resolve (segments true (path.filter (!isIgnored ·))) := by
  rw [read_eq]

/-! ## What is left -/

/-- Dot segments do not stand among the segments that are left, so all are left only if there are
none. -/
theorem resolve_eq_map_iff {ss : List Text} :
    resolve ss = ss.map (Percent.encode Percent.pathSet) ↔ ∀ s ∈ ss, meaning s = .plain := by
  refine ⟨fun h s hs => ?_, resolve_of_plain⟩
  have hleft : ∀ x ∈ resolve ss, meaning x = .plain := by
    apply forall_mem_resolveOnto (q := fun x => meaning x = .plain) rfl
    · simp
    · exact fun x _ hx => meaning_encode.2 hx
  rw [h] at hleft
  exact meaning_encode.1 (hleft _ (List.mem_map_of_mem hs))

/-- The gateway cuts off one segment more, the empty one before the separator at the front. -/
theorem hasDotSegment_eq_false_iff_forall {path : Text} : Path.hasDotSegment path = false ↔
    ∀ s ∈ segments true path, meaning s = .plain := by
  rw [hasDotSegment_eq_false_iff]
  cases path with
  | nil => exact Iff.rfl
  | cons c rest =>
    rw [segments_true_cons]
    by_cases hc : Path.isSeparator c = true
    · rw [if_pos hc, Path.segments_cons, if_pos hc, List.forall_mem_cons]
      exact and_iff_right rfl
    · rw [if_neg hc]

end UrlPath

namespace Url

/-- Under the schemes of the web, setting a path is reading it. -/
theorem path_withPath {u : Url} (hscheme : u.scheme = "http" ∨ u.scheme = "https") (path : Text) :
    (u.withPath path).path = UrlPath.print (UrlPath.read path).segments := by
  show normalPath u.scheme path = _
  rw [normalPath_of_web hscheme, UrlPath.segments_read]
  simp [UrlPath.normalize]

/-- The gateway refuses a path exactly if the URL would drop a segment of it, or take one away, and
that is exactly if its segments would not all be there, each encoded. -/
theorem hasDotSegment_iff_read {u : Url} (hscheme : u.scheme = "http" ∨ u.scheme = "https")
    {path : Text} (hpath : ∀ c ∈ path, UrlPath.isIgnored c = false) :
    (u.withPath path).path = UrlPath.print (UrlPath.read path).segments ∧
    (Path.hasDotSegment path = true ↔
      .here ∈ (UrlPath.read path).meanings ∨ .up ∈ (UrlPath.read path).meanings) ∧
    (Path.hasDotSegment path = false ↔ (UrlPath.read path).segments =
      (UrlPath.segments true path).map (Percent.encode Percent.pathSet)) := by
  have hfilter := UrlPath.filter_of_forall hpath
  have hfalse : Path.hasDotSegment path = false ↔
      ∀ s ∈ UrlPath.segments true path, UrlPath.meaning s = .plain :=
    UrlPath.hasDotSegment_eq_false_iff_forall
  refine ⟨path_withPath hscheme path, ?_, ?_⟩
  · rw [UrlPath.meanings_read, hfilter, ← Bool.not_eq_false, hfalse]
    constructor
    · intro h
      obtain ⟨s, hs, hm⟩ : ∃ s ∈ UrlPath.segments true path, UrlPath.meaning s ≠ .plain := by
        simpa using h
      have hmem := List.mem_map_of_mem (f := UrlPath.meaning) hs
      cases hmeaning : UrlPath.meaning s with
      | here => exact .inl (hmeaning ▸ hmem)
      | up => exact .inr (hmeaning ▸ hmem)
      | plain => exact absurd hmeaning hm
    · rintro h hplain
      rcases h with h | h
      all_goals
        obtain ⟨s, hs, hm⟩ := List.mem_map.1 h
        rw [hplain s hs] at hm
        cases hm
  · rw [UrlPath.segments_read, hfilter, UrlPath.resolve_eq_map_iff, hfalse]

/-- A step up spelled with a percent form behind a backslash, and a single dot at the end. -/
theorem hasDotSegment_iff_read_mixed :
    let u : Url := {
      scheme := "http", authority := some { host := .domain "localhost" }, path := "/"
      query := none, fragment := none }
    let path : Text := "/v1\\.%2E/a..b/%2e"
    (u.scheme = "http" ∨ u.scheme = "https") ∧ (∀ c ∈ path, UrlPath.isIgnored c = false) ∧
      UrlPath.read path = ⟨[.plain, .up, .plain, .here], ["a..b".toList, []]⟩ ∧
      (u.withPath path).path = "/a..b/" ∧ Path.hasDotSegment path = true := by
  intro u path
  have hpath : ∀ c ∈ path, UrlPath.isIgnored c = false := Text.of_all (by decide)
  have hread : UrlPath.read path = ⟨[.plain, .up, .plain, .here], ["a..b".toList, []]⟩ := by decide
  obtain ⟨hurl, hdots, -⟩ := hasDotSegment_iff_read (u := u) (.inl rfl) hpath
  rw [hread] at hurl hdots
  exact ⟨.inl rfl, hpath, hread, hurl, hdots.2 (.inr (by decide))⟩

end Url

end CredentialGateway
