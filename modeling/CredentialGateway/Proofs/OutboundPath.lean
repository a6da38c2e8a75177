import CredentialGateway.Proofs.Pattern
import CredentialGateway.Proofs.Relocation
import CredentialGateway.Proofs.RequestPath
import CredentialGateway.Proofs.Setup

/-!
# The path of a forwarded request

The relocated path is set behind the path of the base URL, which is normal, so only the segments of
the relocated path are resolved.  With the start and the base path that a gateway has by default, a
path without dot segments is relocated to one without dot segments: nothing is resolved, and the
outbound path is the one of the base URL and the relocated path, each character encoded on its own.

    path of the outbound URL = print (resolveOnto ts.reverse (segments of the relocated path))
                                                                                    (path_url)
    path of the outbound URL = ground ++ written (relocated path)        (path_url_of_default)
-/

namespace CredentialGateway

namespace Target

/-- What the relocated path is set behind: the path of the base URL without slashes at the end. -/
def ground (t : Target) : Text := Text.dropTrailing '/' t.base.path

theorem ground_eq_print {c : ServiceConfig} {t : Target} (h : ofConfig c = .ok t)
    (hs : t.base.scheme = "http" ∨ t.base.scheme = "https") :
    ∃ ts, (∀ s ∈ ts, UrlPath.IsNormal s) ∧ t.ground = UrlPath.print ts := by
  obtain ⟨a, hbase, ha, -⟩ := ofConfig_eq_ok_iff.1 h
  exact Url.dropTrailing_path_eq_print (Url.isRead_of_parse hbase) (by simp [ha]) hs

/-- The base path as a URL reads it. -/
def readBase (t : Target) : Text := t.basePath.filter (!UrlPath.isIgnored ·)

section

variable {t : Target} (hscheme : t.base.scheme = "http" ∨ t.base.scheme = "https")
  {ts : List Text} (hts : ∀ s ∈ ts, UrlPath.IsNormal s) (hground : t.ground = UrlPath.print ts)
  (hstart : t.pathStart ≠ []) {uri : RequestUri} (huri : uri.HasPathChars) {w : Text}
  (hw : relocate uri.path t.pathStart t.readBase = '/' :: w)

include hscheme hts hground hstart huri hw

/-- Only the segments of the relocated path are resolved.  The URL passes over no character of it
but those of the base path. -/
theorem path_url :
    (t.url uri).path = UrlPath.print (UrlPath.resolveOnto ts.reverse (Path.segments w)) := by
  have hfilter : (relocate uri.path t.pathStart t.basePath).filter (!UrlPath.isIgnored ·) =
      '/' :: w := by
    rw [relocate, Text.filter_replaceAll hstart]
    · exact hw
    · intro c hc
      simp [RequestUri.isIgnored_of_isPathChar (huri c hc)]
  exact Url.path_extend hscheme hts hground hfilter

/-- Without dot segments the relocated path stands behind the ground as it is written. -/
theorem path_url_of_plain (hplain : ∀ s ∈ Path.segments w, UrlPath.meaning s = .plain) :
    (t.url uri).path = t.ground ++ UrlPath.written ('/' :: w) := by
  rw [path_url hscheme hts hground hstart huri hw, UrlPath.resolveOnto_of_plain hplain,
    List.reverse_reverse, UrlPath.print_append, UrlPath.print_map_segments, hground]
  rfl

end

theorem relocate_slash (path p b : Text) :
    ∃ w, relocate ('/' :: path) ('/' :: p) ('/' :: b) = '/' :: w := by
  rw [relocate, Text.replaceAll, if_neg (by simp)]
  split
  · exact ⟨_, rfl⟩
  · exact ⟨_, rfl⟩

/-- With the defaults a path without dot segments is relocated to one without dot segments: every
segment is one of the path, or starts with `v`. -/
theorem plain_relocate_default {path : Text} (h : Path.hasDotSegment path = false) :
    ∀ s ∈ Path.segments (relocate path "/openai" "/v1"), UrlPath.meaning s = .plain := by
  rw [hasDotSegment_eq_false_iff] at h
  have hp : "/openai".toList ≠ [] := by decide
  rw [relocate, Text.replaceAll_eq_intercalate hp,
    ← UrlPath.passes_iff_forall (h := 0)]
  refine UrlPath.passes_relocated (p := "openai") (b := "v1") (l := []) (s := [])
    (fun _ _ hs => hs) (by decide) (fun _ _ x _ => meaning_cons_of_ne (by decide) (by decide) _)
    (Text.gaps_ne_nil _ _) (fun _ hx => hx) (by simp) (by simp) ?_
  rw [List.nil_append]
  exact (Text.intercalate_gaps hp path).symm ▸ h

end Target

/-- A request that is served by a pattern without braces starts with it. -/
theorem PathPattern.append_of_serves {t : Text} {p : PathPattern} (h : parse? t = some p)
    (hl : IsLiteral t) {path : Text} (hs : p.serves path = true) :
    ∃ rest, path = t ++ rest ∧ (rest = [] ∨ ∃ r, rest = '/' :: r) := by
  rcases (serves_of_isLiteral h hl path).1 hs with rfl | ⟨r, rfl⟩
  · exact ⟨[], by simp, .inl rfl⟩
  · exact ⟨'/' :: r, by simp, .inr ⟨r, rfl⟩⟩

namespace Gateway

/-- Under the start and the base path that are the defaults, no segment of the joined path is
resolved, dropped or merged. -/
theorem path_url_of_default {c : ServiceConfig} {g : Gateway} (hstart : c.pathStart = "/openai")
    (hbase : c.basePath = "/v1") (hg : ofConfig c = .ok g)
    (hscheme : g.target.base.scheme = "http" ∨ g.target.base.scheme = "https") {bytes : Bytes}
    {r : RequestHead} (huri : RequestUri.parse bytes = .ok r.uri)
    (hserved : g.pattern.serves r.uri.path = true)
    (hdots : Path.hasDotSegment r.uri.path = false) (authorization : HeaderValue) :
    ∃ o, g.judge authorization r = .forward o ∧
      o.url.path =
        g.target.ground ++ UrlPath.written (Target.relocate r.uri.path "/openai" "/v1") ∧
      UrlPath.resolve (UrlPath.segments true (g.target.joinedPath r.uri.path)) =
        (UrlPath.segments true (g.target.joinedPath r.uri.path)).map
          (Percent.encode Percent.pathSet) := by
  obtain ⟨htarget, hpattern⟩ := ofConfig_eq_ok_iff.1 hg
  obtain ⟨-, -, -, -, -, hp, hb⟩ := Target.ofConfig_eq_ok_iff.1 htarget
  rw [hstart] at hp hpattern
  rw [hbase] at hb
  obtain ⟨ts, hts, hground⟩ := Target.ground_eq_print htarget hscheme
  obtain ⟨rest, hpath, -⟩ := PathPattern.append_of_serves hpattern (by decide) hserved
  obtain ⟨w, hw⟩ : ∃ w, Target.relocate r.uri.path "/openai" "/v1" = '/' :: w := by
    rw [hpath]
    exact Target.relocate_slash ("openai".toList ++ rest) "openai" "v1"
  have hplain : ∀ s ∈ Path.segments w, UrlPath.meaning s = .plain := fun s hs => by
    refine Target.plain_relocate_default hdots s ?_
    rw [hw, Path.segments_slash]
    exact List.mem_cons_of_mem _ hs
  have hread : g.target.readBase = "/v1" := by
    rw [Target.readBase, hb]
    decide
  refine ⟨_, judge_eq_forward_iff.2 ⟨hserved, hdots, rfl⟩, ?_, ?_⟩
  · rw [hw]
    refine Target.path_url_of_plain hscheme hts hground (by simp [hp])
      (RequestUri.hasPathChars_of_parse huri) ?_ hplain
    rw [hp, hread]
    exact hw
  · rw [Target.joinedPath, ← Target.ground, hground, hp, hb, hw,
      UrlPath.segments_print_append (fun s hs c hc => ((hts s hs).chars c hc).2),
      UrlPath.resolve_of_plain]
    intro s hs
    rcases List.mem_append.1 hs with hs | hs
    · exact (hts s hs).plain
    · exact hplain s hs

/-- An occurrence of the start in the middle of a segment, with dots behind it. -/
theorem path_url_of_default_nested : ∃ o, loopback.judge Credential.bareHeader
      ⟨"GET", ⟨none, none, "/openai/x/openai..", some "q"⟩, []⟩ = .forward o ∧
    o.url.path = loopback.target.ground ++
      UrlPath.written (Target.relocate "/openai/x/openai.." "/openai" "/v1") ∧
    UrlPath.resolve (UrlPath.segments true (loopback.target.joinedPath "/openai/x/openai..")) =
      (UrlPath.segments true (loopback.target.joinedPath "/openai/x/openai..")).map
        (Percent.encode Percent.pathSet) := by
  have huri : RequestUri.parse (Text.utf8 "/openai/x/openai..?q") =
      .ok ⟨none, none, "/openai/x/openai..", some "q"⟩ := by cbv
  exact path_url_of_default (c := .loopback) rfl rfl ofConfig_loopback (.inl rfl)
    (r := ⟨"GET", ⟨none, none, "/openai/x/openai..", some "q"⟩, []⟩) huri (by decide) (by cbv)
    Credential.bareHeader

end Gateway

end CredentialGateway
