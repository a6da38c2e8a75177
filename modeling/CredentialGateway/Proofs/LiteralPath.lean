import CredentialGateway.Proofs.PathReading
import CredentialGateway.Proofs.Setup

/-!
# Base paths that are taken as they stand

Validation looks for dot segments in the base path as it is configured.  The URL passes over TAB, LF
and CR before it looks, so one of these characters can stand in a segment that is no dot segment
with it and is one without it.  Set behind the path of a base URL, a validated base path is taken as
it stands exactly if there is no such segment, and always if it holds none of these characters.

    base path valid →  nothing of it is resolved ↔ it has no dot segment without TAB, LF and CR
                                                                        (isLiteral_iff)
-/

namespace CredentialGateway.Url

/-! ## Paths behind the path of a URL -/

/-- Set behind the path of the URL, the path is taken as it stands: no segment is dropped or takes
one away, and all of them are there, behind those of the URL, encoded and without the characters
that a URL passes over. -/
structure IsLiteral (u : Url) (path : Text) : Prop where
  meanings : ∀ m ∈ (UrlPath.read (Text.dropTrailing '/' u.path ++ path)).meanings, m = .plain
  segments : (u.extend path).path = Text.dropTrailing '/' u.path ++ UrlPath.print
    ((UrlPath.segments true path).map fun s =>
      Percent.encode Percent.pathSet (s.filter (!UrlPath.isIgnored ·)))

/-- A path is taken as it stands exactly if no segment is a dot segment once the characters are gone
that a URL passes over. -/
theorem isLiteral_iff_plain {u : Url} (hread : u.IsRead) (ha : u.authority.isSome)
    (hscheme : u.scheme = "http" ∨ u.scheme = "https") {w : Text} :
    u.IsLiteral ('/' :: w) ↔
      Path.hasDotSegment (('/' :: w).filter (!UrlPath.isIgnored ·)) = false := by
  obtain ⟨ts, hts, hground⟩ := dropTrailing_path_eq_print hread ha hscheme
  have hfilter : ('/' :: w).filter (!UrlPath.isIgnored ·) =
      '/' :: w.filter (!UrlPath.isIgnored ·) := List.filter_cons_of_pos (by decide)
  have hkeep : ∀ c, Path.isSeparator c = true → (!UrlPath.isIgnored c) = true := fun c hc => by
    simp only [Path.isSeparator, Bool.or_eq_true, beq_iff_eq] at hc
    rcases hc with rfl | rfl <;> decide
  have hprint : Text.dropTrailing '/' u.path ++ UrlPath.print
      ((UrlPath.segments true ('/' :: w)).map fun s =>
        Percent.encode Percent.pathSet (s.filter (!UrlPath.isIgnored ·))) =
      UrlPath.print (ts ++ (Path.segments (w.filter (!UrlPath.isIgnored ·))).map
        (Percent.encode Percent.pathSet)) := by
    rw [hground, UrlPath.segments_slash, Path.segments_filter hkeep, List.map_map,
      UrlPath.print_append]
    rfl
  rw [hfilter, UrlPath.hasDotSegment_eq_false_iff_forall, UrlPath.segments_slash]
  constructor
  · intro h
    by_contra hdots
    refine UrlPath.not_print_prefix_of_dots hts
      (fun s hs c hc => (Path.of_mem_segments hs hc).1) hdots ?_
    rw [← hprint, ← h.segments, path_extend hscheme hts hground hfilter]
  · intro h
    constructor
    · rw [UrlPath.meanings_read, hground, UrlPath.segments_filter_print_append hts hfilter]
      intro m hm
      obtain ⟨s, hs, rfl⟩ := List.mem_map.1 hm
      rcases List.mem_append.1 hs with hs | hs
      · exact (hts s hs).plain
      · exact h s hs
    · rw [path_extend hscheme hts hground hfilter, hprint, UrlPath.resolveOnto_of_plain h,
        List.reverse_reverse]

/-! ## Validated base paths -/

/-- A base path without problems, behind the path of a base URL without problems, is taken as it
stands exactly if nothing that the URL passes over hides a dot segment from validation.  Without TAB,
LF and CR there is nothing to hide it. -/
theorem isLiteral_iff {t b : Text} (ht : GatewayConfig.baseUrlCauses t = [])
    (hb : GatewayConfig.basePathCauses b = []) :
    ∃ u, parse t = .ok u ∧
      (u.IsLiteral b ↔ Path.hasDotSegment (b.filter (!UrlPath.isIgnored ·)) = false) ∧
      ((∀ c ∈ b, UrlPath.isIgnored c = false) → u.IsLiteral b) := by
  obtain ⟨u, hu, hscheme, ha⟩ := GatewayConfig.baseUrlCauses_eq_nil_iff.1 ht
  obtain ⟨hslash, hdots⟩ := GatewayConfig.basePathCauses_eq_nil_iff.1 hb
  obtain ⟨w, rfl⟩ := List.head?_eq_some_iff.1 hslash
  have hliteral := isLiteral_iff_plain (isRead_of_parse hu) ha hscheme (w := w)
  refine ⟨u, hu, hliteral, fun hchars => hliteral.2 ?_⟩
  rw [UrlPath.filter_of_forall hchars]
  exact hdots

/-- A TAB in a segment, and three dots. -/
theorem isLiteral_iff_tab : ∃ u, parse ServiceConfig.loopback.baseUrl = .ok u ∧
    GatewayConfig.baseUrlCauses ServiceConfig.loopback.baseUrl = [] ∧
    GatewayConfig.basePathCauses "/v\t1/.\t.." = [] ∧ u.IsLiteral "/v\t1/.\t.." ∧
    (u.extend "/v\t1/.\t..").path = "/api/v1/..." := by
  have ht : GatewayConfig.baseUrlCauses ServiceConfig.loopback.baseUrl = [] :=
    (GatewayConfig.isValid_iff.1 GatewayConfig.isValid_loopback).2.1
  have hb : GatewayConfig.basePathCauses "/v\t1/.\t.." = [] := by cbv
  obtain ⟨u, hu, hliteral, -⟩ := isLiteral_iff ht hb
  have hu' : u.IsLiteral "/v\t1/.\t.." := hliteral.2 (by cbv)
  refine ⟨u, hu, ht, hb, hu', hu'.segments.trans ?_⟩
  rw [parse_loopback] at hu
  cases hu
  rfl

/-- A TAB between two dots passes validation, and the URL steps up. -/
theorem not_isLiteral_tab : GatewayConfig.baseUrlCauses ServiceConfig.loopback.baseUrl = [] ∧
    GatewayConfig.basePathCauses "/v1/.\t./x" = [] ∧
    parse ServiceConfig.loopback.baseUrl = .ok Target.loopback.base ∧
    (Target.loopback.base.extend "/v1/.\t./x").path = "/api/x" ∧
    ¬ Target.loopback.base.IsLiteral "/v1/.\t./x" := by
  have ht : GatewayConfig.baseUrlCauses ServiceConfig.loopback.baseUrl = [] :=
    (GatewayConfig.isValid_iff.1 GatewayConfig.isValid_loopback).2.1
  have hpath : (Target.loopback.base.extend "/v1/.\t./x").path = "/api/x" := by rfl
  refine ⟨ht, by cbv, parse_loopback, hpath, fun h => ?_⟩
  have hsegments := h.segments
  rw [hpath] at hsegments
  exact absurd hsegments (by decide)

end CredentialGateway.Url
