import CredentialGateway.Proofs.OutboundPath

/-!
# Confinement

A gateway confines its callers if the path of every forwarded request starts with the path of the
base URL and the base path.  The dot test is made before the base path is put in, and putting it in
can make new dot segments, so whether a gateway confines depends on how the base path ends.

A base path is steady if it has no dot segments and has no less than two segments, or cannot be
completed to two dots by text that the test lets pass.  The base path `/` can, and is steady only if
there is nothing above it that a step up could take away.

    pathStart without braces:  g.Confines ↔ (a request is admitted → the target is steady)
                                                                    (confines_iff_isSteady)
    base path that no text completes:  g.Confines ↔ every relocated path starts with it
                                                                    (confines_iff_of_not_canClimb)
    pathStart with a brace:  all steady base paths are confined ↔ no request is admitted
                                                                    (confines_iff_of_brace)
-/

namespace CredentialGateway

namespace Target

/-- What the path of every forwarded request should start with. -/
def floor (t : Target) : Text := t.ground ++ UrlPath.written t.readBase

/-- Some text completes the base path to a step up, and the forwarded start to a plain segment. -/
def CanClimb (t : Target) : Prop :=
  ∃ x, UrlPath.meaning (Path.lastSegment t.readBase ++ x) = .up ∧
    UrlPath.meaning (Path.lastSegment t.pathStart ++ x) = .plain

/-- No step up takes anything away from the path of the base URL. -/
def IsPinned (t : Target) : Prop :=
  t.ground = [] ∨ UrlPath.isDrive (Path.lastSegment t.ground) = true

/-- What callers put behind the base path does not lead out of it.  The first of its segments is the
empty one before the slash. -/
structure IsSteady (t : Target) : Prop where
  plain : ∀ s ∈ Path.segments t.readBase, UrlPath.meaning s = .plain
  join : 2 < (Path.segments t.readBase).length ∨ ¬ t.CanClimb ∨
    t.readBase = ['/'] ∧ t.IsPinned

/-- A request for the forwarded start and twice more for the start with `x` behind it. -/
def climb (t : Target) (x : Text) : RequestUri :=
  ⟨none, none, t.pathStart ++ (t.pathStart ++ x ++ (t.pathStart ++ x)), none⟩

end Target

namespace Gateway

/-- The request is served, and its path has no dot segment. -/
def Admits (g : Gateway) (uri : RequestUri) : Prop :=
  uri.HasPathChars ∧ g.pattern.serves uri.path = true ∧ Path.hasDotSegment uri.path = false

/-- The path of every forwarded request, however long, starts with the path of the base URL and the
base path. -/
def Confines (g : Gateway) : Prop :=
  ∀ (authorization : HeaderValue) (r : RequestHead) (o : Outbound), r.uri.HasPathChars →
    g.judge authorization r = .forward o → g.target.floor <+: o.url.path

/-- Only the path matters. -/
theorem confines_iff {g : Gateway} :
    g.Confines ↔ ∀ uri, g.Admits uri → g.target.floor <+: (g.target.url uri).path := by
  constructor
  · intro h uri hu
    exact h Credential.bareHeader ⟨"GET", uri, []⟩ _ hu.1
      (judge_eq_forward_iff.2 ⟨hu.2.1, hu.2.2, rfl⟩)
  · intro h authorization r o hchars hj
    obtain ⟨hs, hd, rfl⟩ := judge_eq_forward_iff.1 hj
    exact h r.uri ⟨hchars, hs, hd⟩

end Gateway

namespace Target

section

variable {t : Target} {ts : List Text} (hts : ∀ s ∈ ts, UrlPath.IsNormal s)
  (hground : t.ground = UrlPath.print ts)

/-! ## The path of the base URL -/

include hts hground

/-- Segments of a normal path, last first: a step up takes nothing away exactly if it is pinned. -/
theorem isPinned_iff : t.IsPinned ↔ UrlPath.pop ts.reverse = ts.reverse := by
  rw [IsPinned, hground]
  rcases List.eq_nil_or_concat ts with rfl | ⟨ts, l, rfl⟩
  · simp [UrlPath.print, UrlPath.pop]
  · rw [List.concat_eq_append] at hts ⊢
    have hl : Path.lastSegment (UrlPath.print (ts ++ [l])) = l := by
      rw [UrlPath.print_append, UrlPath.print_cons, UrlPath.print_nil, List.append_nil,
        Path.lastSegment, Path.segments_append_slash,
        Path.segments_of_forall fun c hc => ((hts l (by simp)).chars c hc).2]
      simp
    rw [hl, List.reverse_append, List.reverse_singleton, List.singleton_append, UrlPath.pop]
    constructor
    · rintro (h | h)
      · simp [UrlPath.print] at h
      · rw [if_pos h]
    · intro h
      split at h
      · rename_i hd
        exact .inr hd
      · have := congrArg List.length h
        simp at this

end

section

variable {t : Target} {ts : List Text} (hground : t.ground = UrlPath.print ts)
  {p b : Text} (hp : t.pathStart = '/' :: p) (hb : t.readBase = '/' :: b)

include hground hb

theorem floor_eq_print : t.floor =
    UrlPath.print (ts ++ (Path.segments b).map (Percent.encode Percent.pathSet)) := by
  rw [UrlPath.print_append, UrlPath.print_map_segments, floor, hground, hb]
  rfl

variable (hscheme : t.base.scheme = "http" ∨ t.base.scheme = "https")
  (hts : ∀ s ∈ ts, UrlPath.IsNormal s)
include hp hscheme hts

/-! ## Steady base paths confine -/

/-- The base path stays, and of what is put behind it nothing steps up into it. -/
theorem floor_prefix_of_join (hplain : ∀ s ∈ Path.segments b, UrlPath.meaning s = .plain)
    (hjoin : 1 < (Path.segments b).length ∨ ¬ t.CanClimb) {uri : RequestUri}
    (huri : uri.HasPathChars) {rest : Text} (hpath : uri.path = '/' :: p ++ rest)
    (hrest : rest = [] ∨ ∃ r, rest = '/' :: r) (hdots : Path.hasDotSegment uri.path = false) :
    t.floor <+: (t.url uri).path := by
  have hstart : t.pathStart ≠ [] := by simp [hp]
  have hfront : relocate uri.path t.pathStart t.readBase =
      '/' :: b ++ relocate rest ('/' :: p) ('/' :: b) := by
    rw [hpath, hp, hb]
    exact Text.replaceAll_append (by simp) _ _
  rcases hrest with rfl | ⟨r, rfl⟩
  · have hw : relocate uri.path t.pathStart t.readBase = '/' :: b := by
      rw [hfront]
      simp [relocate, Text.replaceAll]
    have hurl := path_url_of_plain hscheme hts hground hstart huri hw hplain
    rw [← hb] at hurl
    exact hurl ▸ List.prefix_refl _
  · obtain ⟨w, hw⟩ := relocate_slash r p b
    rw [path_url hscheme hts hground hstart huri (w := b ++ '/' :: w) (by rw [hfront, hw]; rfl),
      Path.segments_append_slash, UrlPath.resolveOnto_append_plain hplain,
      floor_eq_print hground hb]
    have hr : ∀ s ∈ Path.segments r, UrlPath.meaning s = .plain := by
      rw [hasDotSegment_eq_false_iff, hpath, Path.segments_append_slash] at hdots
      exact fun s hs => hdots s (by simp [hs])
    have hpass := UrlPath.passes_relocated_slash UrlPath.aboveGround_of_plain (p := p) (b := b)
      (fun s hs => hplain s ((List.dropLast_sublist _).subset hs))
      (fun h hh x hx hup => by
        rcases hjoin with hjoin | hjoin
        · rw [List.length_dropLast] at hh
          omega
        · refine absurd ⟨x, ?_, ?_⟩ hjoin
          · rw [hb, Path.lastSegment_slash]
            exact hup
          · rw [hp, Path.lastSegment_slash]
            exact hx)
      (Text.gaps_ne_nil ('/' :: p) ('/' :: r)) (Text.intercalate_gaps (by simp) _)
      (by rw [← Text.replaceAll_eq_intercalate (by simp)]; exact hw) hr 0
    obtain ⟨more, hmore⟩ := UrlPath.resolveOnto_of_passes
      (((Path.segments b).map (Percent.encode Percent.pathSet)).reverse ++ ts.reverse) hpass []
      (Nat.zero_le _)
    rw [List.nil_append] at hmore
    rw [hmore]
    simp [UrlPath.print_append]

/-- What stands under the base path `/` stays if no step up takes it away. -/
theorem floor_prefix_of_pinned (hnil : b = []) (hpinned : t.IsPinned) {uri : RequestUri}
    (huri : uri.HasPathChars) {rest : Text} (hpath : uri.path = '/' :: p ++ rest) :
    t.floor <+: (t.url uri).path := by
  obtain ⟨w, hw⟩ := relocate_slash (p ++ rest) p b
  rw [path_url hscheme hts hground (by simp [hp]) huri (w := w) (by rw [hpath, hp, hb]; exact hw)]
  rw [isPinned_iff hts hground] at hpinned
  obtain ⟨more, hne, hmore⟩ := UrlPath.resolveOnto_of_pop hpinned (Path.segments_ne_nil w) []
  obtain ⟨m, more, rfl⟩ := List.exists_cons_of_ne_nil hne
  rw [List.nil_append] at hmore
  rw [hmore, floor, hground, hb, hnil, List.reverse_reverse, UrlPath.print_append,
    UrlPath.print_cons]
  exact (List.prefix_append_right_inj _).2 ⟨m ++ UrlPath.print more, rfl⟩

/-! ## Other base paths do not -/

/-- The forwarded start by itself becomes the base path, and dot segments in it are resolved. -/
theorem not_floor_prefix_of_dots (hdots : ¬ ∀ s ∈ Path.segments b, UrlPath.meaning s = .plain)
    {uri : RequestUri} (huri : uri.HasPathChars) (hpath : uri.path = '/' :: p) :
    ¬ t.floor <+: (t.url uri).path := by
  have hw : relocate uri.path t.pathStart t.readBase = '/' :: b := by
    rw [hpath, hp, hb]
    exact Text.replaceAll_self (by simp) _
  rw [path_url hscheme hts hground (by simp [hp]) huri hw, floor_eq_print hground hb]
  exact UrlPath.not_print_prefix_of_dots hts (fun s hs c hc => (Path.of_mem_segments hs hc).1) hdots

omit hground hscheme hts in
theorem relocate_climb {x : Text} (hslash : '/' ∉ x) :
    relocate (t.climb x).path t.pathStart t.readBase =
      '/' :: (b ++ '/' :: (b ++ x ++ '/' :: (b ++ x))) := by
  have hx : Text.replaceAll ('/' :: p) ('/' :: b) x = x := by
    simpa [Text.replaceAll] using Text.replaceAll_append_of_notMem (p := p) hslash ('/' :: b) []
  rw [climb, hp, hb, relocate, Text.replaceAll_append (by simp), List.append_assoc,
    Text.replaceAll_append (by simp), Text.replaceAll_append_of_notMem hslash,
    Text.replaceAll_append (by simp), hx]
  simp

/-- The second segment takes the base path away, and the third what is above it. -/
theorem path_url_climb (hone : Path.segments b = [Path.lastSegment b])
    (hplain : UrlPath.meaning (Path.lastSegment b) = .plain) {x : Text}
    (hup : UrlPath.meaning (Path.lastSegment b ++ x) = .up)
    (huri : (t.climb x).HasPathChars) :
    (t.url (t.climb x)).path = UrlPath.print ([] :: UrlPath.pop ts.reverse).reverse := by
  have hdots : ∀ c ∈ Path.lastSegment b ++ x, c ∈ dotChars := fun c =>
    mem_of_dots (meaning_eq_up_iff.1 hup)
  have hslash : '/' ∉ x := fun hc =>
    absurd (hdots '/' (List.mem_append_right _ hc)) (by decide)
  have hbx : Path.segments (b ++ x) = [Path.lastSegment b ++ x] := by
    have every : ∀ d ∈ dotChars, Path.isSeparator d = false := Text.of_all (by decide)
    rw [Path.segments_append, hone, Path.segments_of_forall fun c hc => every c (hdots c hc)]
    rfl
  have hpop : UrlPath.pop (Percent.encode Percent.pathSet (Path.lastSegment b) :: ts.reverse) =
      ts.reverse := by
    have every : ∀ d ∈ dotChars, Percent.pathSet d = false := Text.of_all (by decide)
    have hlast : ∀ c ∈ Path.lastSegment b, c ∈ dotChars := fun c hc =>
      hdots c (List.mem_append_left x hc)
    rw [Percent.encode_of_forall fun c hc => every c (hlast c hc), UrlPath.pop, if_neg]
    simp [isDrive_of_forall hlast]
  rw [path_url hscheme hts hground (by simp [hp]) huri (relocate_climb hp hb hslash),
    Path.segments_append_slash, Path.segments_append_slash, hbx, hone, List.singleton_append,
    List.singleton_append, UrlPath.resolveOnto_plain hplain, UrlPath.resolveOnto_up hup,
    if_neg (by simp), hpop, UrlPath.resolveOnto_up hup, if_pos rfl]

/-- What is left is shorter than the base path, unless that is `/` on a path that is pinned. -/
theorem not_floor_prefix_of_climb (hone : Path.segments b = [Path.lastSegment b])
    (hplain : UrlPath.meaning (Path.lastSegment b) = .plain) {x : Text}
    (hup : UrlPath.meaning (Path.lastSegment b ++ x) = .up) (hnot : ¬ (b = [] ∧ t.IsPinned))
    (huri : (t.climb x).HasPathChars) : ¬ t.floor <+: (t.url (t.climb x)).path := by
  rw [path_url_climb hground hp hb hscheme hts hone hplain hup huri, floor_eq_print hground hb,
    hone, List.map_singleton]
  intro hpre
  have hlong := hpre.length_le
  rw [List.reverse_cons, UrlPath.print_append, UrlPath.print_append, List.length_append,
    List.length_append] at hlong
  simp only [UrlPath.print_cons, UrlPath.print_nil, List.append_nil, List.length_cons,
    List.length_nil] at hlong
  rcases UrlPath.length_print_pop ts.reverse with h | h
  · -- a pinned path is left, and the slash behind it is too short for any other base path
    rw [h, List.reverse_reverse] at hlong
    have hempty : Percent.encode Percent.pathSet (Path.lastSegment b) = [] :=
      List.length_eq_zero_iff.1 (by omega)
    have hlast : Path.lastSegment b = [] := Percent.encode_eq_nil_iff.1 hempty
    exact hnot ⟨Path.eq_nil_of_segments (by rw [hone, hlast]), (isPinned_iff hts hground).2 h⟩
  · rw [List.reverse_reverse] at h
    omega

end

/-! ## Base paths that cannot be completed -/

/-- A base path without dot segments that no text completes to a step up brings no dot segment into
a path: a single dot would only be one dot away from the step. -/
theorem plain_relocate {t : Target} {p b r w : Text} (hp : t.pathStart = '/' :: p)
    (hb : t.readBase = '/' :: b) (hplain : ∀ s ∈ Path.segments b, UrlPath.meaning s = .plain)
    (hclimb : ¬ t.CanClimb) (hw : relocate ('/' :: r) t.pathStart t.readBase = '/' :: w)
    (hr : ∀ s ∈ Path.segments r, UrlPath.meaning s = .plain) :
    ∀ s ∈ Path.segments w, UrlPath.meaning s = .plain := by
  have hlast : UrlPath.meaning (Path.lastSegment b) = .plain := hplain _ (Path.lastSegment_mem b)
  have hup (x : Text) (hx : UrlPath.meaning (Path.lastSegment p ++ x) = .plain) :
      UrlPath.meaning (Path.lastSegment b ++ x) ≠ .up := fun h => by
    refine hclimb ⟨x, ?_, ?_⟩
    · rw [hb, Path.lastSegment_slash]
      exact h
    · rw [hp, Path.lastSegment_slash]
      exact hx
  have hfit (x : Text) (hx : UrlPath.meaning (Path.lastSegment p ++ x) = .plain) :
      UrlPath.meaning (Path.lastSegment b ++ x) = .plain := by
    cases hm : UrlPath.meaning (Path.lastSegment b ++ x) with
    | plain => rfl
    | up => exact absurd hm (hup x hx)
    | here =>
      have hne : Path.lastSegment p ++ x ≠ [] := by
        intro hnil
        rw [(List.append_eq_nil_iff.1 hnil).2, List.append_nil, hlast] at hm
        cases hm
      refine absurd ?_ (hup (x ++ ['.']) ?_)
      · rw [← List.append_assoc]
        exact meaning_append_dot_of_here hm
      · rw [← List.append_assoc]
        exact meaning_append_dot_of_plain hx hne
  rw [hp, hb, relocate, Text.replaceAll_eq_intercalate (by simp)] at hw
  rw [← UrlPath.passes_iff_forall (h := 0)]
  exact UrlPath.passes_relocated_slash (fun _ _ hs => hs)
    (fun s hs => hplain s ((List.dropLast_sublist _).subset hs)) (fun _ _ => hfit)
    (Text.gaps_ne_nil _ _) (Text.intercalate_gaps (by simp) _) hw hr 0

end Target

namespace Gateway

/-! ## Gateways that confine -/

/-- What the checks of a configuration say about the gateway that is set up. -/
theorem shape_of_isValid {c : GatewayConfig} {g : Gateway} (hc : c.isValid = true)
    (hg : ofConfig c.service = .ok g) :
    (g.target.base.scheme = "http" ∨ g.target.base.scheme = "https") ∧
      (∃ p, g.target.pathStart = '/' :: p) ∧ ∃ b, g.target.readBase = '/' :: b := by
  obtain ⟨-, hurl, hstart, hbase, -, -⟩ := GatewayConfig.isValid_iff.1 hc
  obtain ⟨a, hparse, -, -, -, hp, hb⟩ :=
    Target.ofConfig_eq_ok_iff.1 (ofConfig_eq_ok_iff.1 hg).1
  obtain ⟨u, hu, hscheme, -⟩ := GatewayConfig.baseUrlCauses_eq_nil_iff.1 hurl
  rw [hparse] at hu
  cases hu
  have hstart := (GatewayConfig.pathStartCauses_eq_nil_iff.1 hstart).1
  have hbase := (GatewayConfig.basePathCauses_eq_nil_iff.1 hbase).1
  obtain ⟨p, hp'⟩ := List.head?_eq_some_iff.1 hstart
  obtain ⟨b, hb'⟩ := List.head?_eq_some_iff.1 hbase
  refine ⟨hscheme, ⟨p, hp.trans hp'⟩, b.filter (!UrlPath.isIgnored ·), ?_⟩
  rw [Target.readBase, hb, hb']
  rfl

/-- A path that is served starts with a slash. -/
theorem Admits.slash {g : Gateway} {t : Text} (hg : PathPattern.parse? t = some g.pattern)
    (ht : t.head? = some '/') {uri : RequestUri} (h : g.Admits uri) : ∃ r, uri.path = '/' :: r := by
  obtain ⟨ps, hps⟩ := PathPattern.pieces_eq_cons hg ht
  have hserves := h.2.1
  rw [PathPattern.serves, hps] at hserves
  cases hpath : uri.path with
  | nil => simp [hpath, PathPattern.matchPieces] at hserves
  | cons d r =>
    by_cases hd : '/' = d
    · exact ⟨r, by rw [hd]⟩
    · simp [hpath, PathPattern.matchPieces, hd] at hserves

/-- Whatever the pattern, behind a base path without dot segments that cannot be completed nothing
is resolved, and a gateway confines exactly if replacement leaves the base path at the front. -/
theorem confines_iff_of_not_canClimb {c : GatewayConfig} {g : Gateway} (hc : c.isValid = true)
    (hg : ofConfig c.service = .ok g)
    (hplain : ∀ s ∈ Path.segments g.target.readBase, UrlPath.meaning s = .plain)
    (hclimb : ¬ g.target.CanClimb) :
    g.Confines ↔ ∀ uri, g.Admits uri → UrlPath.written g.target.readBase <+:
      UrlPath.written (Target.relocate uri.path g.target.pathStart g.target.readBase) := by
  obtain ⟨hscheme, ⟨p, hp⟩, b, hb⟩ := shape_of_isValid hc hg
  obtain ⟨htarget, hpattern⟩ := ofConfig_eq_ok_iff.1 hg
  obtain ⟨-, -, -, -, -, hstart, -⟩ := Target.ofConfig_eq_ok_iff.1 htarget
  obtain ⟨ts, hts, hground⟩ := Target.ground_eq_print htarget hscheme
  rw [hb, Path.segments_slash] at hplain
  rw [confines_iff]
  refine forall_congr' fun uri => forall_congr' fun huri => ?_
  obtain ⟨r, hr⟩ := huri.slash hpattern (by rw [← hstart, hp]; rfl)
  obtain ⟨w, hw⟩ :
      ∃ w, Target.relocate uri.path g.target.pathStart g.target.readBase = '/' :: w := by
    rw [hr, hp, hb]
    exact Target.relocate_slash r p b
  have hdots := huri.2.2
  rw [hasDotSegment_eq_false_iff, hr, Path.segments_slash] at hdots
  have hrelocated : ∀ s ∈ Path.segments w, UrlPath.meaning s = .plain :=
    Target.plain_relocate hp hb (fun s hs => hplain s (List.mem_cons_of_mem _ hs)) hclimb
      (hr ▸ hw) fun s hs => hdots s (List.mem_cons_of_mem _ hs)
  rw [Target.path_url_of_plain hscheme hts hground (by simp [hp]) huri.1 hw hrelocated,
    Target.floor, hw]
  exact List.prefix_append_right_inj _

section

variable {g : Gateway} {p : Text} (hp : g.target.pathStart = '/' :: p)
  (hserves : ∀ path, g.pattern.serves path = true ↔
    path = '/' :: p ∨ ('/' :: p ++ ['/']) <+: path)
include hserves

/-- What stands behind the start of an admitted request. -/
theorem Admits.split {uri : RequestUri} (h : g.Admits uri) :
    ∃ rest, uri.path = '/' :: p ++ rest ∧ (rest = [] ∨ ∃ r, rest = '/' :: r) := by
  rcases (hserves uri.path).1 h.2.1 with h | ⟨r, h⟩
  · exact ⟨[], by simp [h], .inl rfl⟩
  · exact ⟨'/' :: r, by simp [← h], .inr ⟨r, rfl⟩⟩

/-- The start by itself is admitted if any request is. -/
theorem Admits.start {uri : RequestUri} (h : g.Admits uri) :
    g.Admits ⟨none, none, '/' :: p, none⟩ := by
  obtain ⟨rest, hpath, hrest⟩ := h.split hserves
  refine ⟨fun c hc => h.1 c (by rw [hpath]; exact List.mem_append_left _ hc),
    (hserves _).2 (.inl rfl), ?_⟩
  have hdots := h.2.2
  rw [hasDotSegment_eq_false_iff, hpath] at hdots
  rw [hasDotSegment_eq_false_iff]
  intro s hs
  refine hdots s ?_
  rcases hrest with rfl | ⟨r, rfl⟩
  · rw [List.append_nil]
    exact hs
  · rw [Path.segments_append_slash]
    exact List.mem_append_left _ hs

include hp in
/-- So is the request that climbs, if the test lets its text pass. -/
theorem Admits.climb {uri : RequestUri} (h : g.Admits uri) {x : Text}
    (hx : ∀ c ∈ x, c ∈ dotChars)
    (hplain : UrlPath.meaning (Path.lastSegment p ++ x) = .plain) :
    g.Admits (g.target.climb x) := by
  have hstart := h.start hserves
  have every : ∀ d ∈ dotChars, RequestUri.isPathChar d = true ∧
      Path.isSeparator d = false := Text.of_all (by decide)
  refine ⟨?_, ?_, ?_⟩
  · intro c hc
    simp only [Target.climb, hp, List.mem_append] at hc
    rcases hc with hc | (hc | hc) | hc | hc
    · exact hstart.1 c hc
    · exact hstart.1 c hc
    · exact (every c (hx c hc)).1
    · exact hstart.1 c hc
    · exact (every c (hx c hc)).1
  · rw [hserves]
    exact .inr ⟨p ++ x ++ ('/' :: p ++ x), by simp [Target.climb, hp]⟩
  · have hdots := hstart.2.2
    rw [hasDotSegment_eq_false_iff, Path.segments_slash] at hdots
    have hpx : ∀ s ∈ Path.segments (p ++ x), UrlPath.meaning s = .plain := by
      have hsep : ∀ c ∈ Path.lastSegment p ++ x, Path.isSeparator c = false := fun c hc => by
        rcases List.mem_append.1 hc with hc | hc
        · exact Path.isSeparator_of_mem_lastSegment hc
        · exact (every c (hx c hc)).2
      rw [Path.segments_append, Path.segments_of_forall hsep]
      intro s hs
      rcases List.mem_append.1 hs with hs | hs
      · exact hdots s (List.mem_cons_of_mem _ ((List.dropLast_sublist _).subset hs))
      · rw [List.mem_singleton.1 hs]
        exact hplain
    have hcut : Path.segments (g.target.climb x).path =
        Path.segments ('/' :: p) ++ (Path.segments (p ++ x) ++ Path.segments (p ++ x)) := by
      rw [← Path.segments_append_slash, ← Path.segments_append_slash, Target.climb, hp]
      simp
    rw [hasDotSegment_eq_false_iff, hcut, Path.segments_slash]
    intro s hs
    rcases List.mem_append.1 hs with hs | hs
    · exact hdots s hs
    · exact hpx s ((List.mem_append.1 hs).elim id id)

variable {b : Text} (hb : g.target.readBase = '/' :: b) {ts : List Text}
  (hscheme : g.target.base.scheme = "http" ∨ g.target.base.scheme = "https")
  (hts : ∀ s ∈ ts, UrlPath.IsNormal s) (hground : g.target.ground = UrlPath.print ts)
include hp hb hscheme hts hground

/-- Behind a steady base path no request leads out. -/
theorem floor_prefix_of_isSteady (h : g.target.IsSteady) {uri : RequestUri} (huri : g.Admits uri) :
    g.target.floor <+: (g.target.url uri).path := by
  obtain ⟨hplain, hjoin⟩ := h
  obtain ⟨rest, hpath, hrest⟩ := huri.split hserves
  rw [hb, Path.segments_slash] at hplain
  have hplain : ∀ s ∈ Path.segments b, UrlPath.meaning s = .plain := fun s hs =>
    hplain s (List.mem_cons_of_mem _ hs)
  rw [hb, Path.segments_slash, List.length_cons] at hjoin
  rcases hjoin with hjoin | hjoin | ⟨hslash, hpinned⟩
  · exact Target.floor_prefix_of_join hground hp hb hscheme hts hplain (.inl (by omega)) huri.1
      hpath hrest huri.2.2
  · exact Target.floor_prefix_of_join hground hp hb hscheme hts hplain (.inr hjoin) huri.1
      hpath hrest huri.2.2
  · rw [List.cons.injEq] at hslash
    exact Target.floor_prefix_of_pinned hground hp hb hscheme hts hslash.2 hpinned huri.1 hpath

/-- If the start alone and the request that climbs do not lead out, the base path is steady. -/
theorem isSteady_of_floor_prefix (h : ∀ uri, g.Admits uri →
    g.target.floor <+: (g.target.url uri).path) {uri : RequestUri} (huri : g.Admits uri) :
    g.target.IsSteady := by
  have hsegments : Path.segments g.target.readBase = [] :: Path.segments b := by
    rw [hb, Path.segments_slash]
  have hstart := huri.start hserves
  have hplain : ∀ s ∈ Path.segments b, UrlPath.meaning s = .plain := by
    by_contra hdots
    exact Target.not_floor_prefix_of_dots hground hp hb hscheme hts hdots hstart.1 rfl
      (h _ hstart)
  refine ⟨fun s hs => ?_, ?_⟩
  · rw [hsegments] at hs
    rcases List.mem_cons.1 hs with rfl | hs
    · rfl
    · exact hplain s hs
  · by_contra hjoin
    simp only [not_or, not_not] at hjoin
    obtain ⟨hshort, ⟨x, hup, hpass⟩, hnot⟩ := hjoin
    rw [hb, Path.lastSegment_slash] at hup
    rw [hp, Path.lastSegment_slash] at hpass
    have hone : Path.segments b = [Path.lastSegment b] := by
      have hfront : (Path.segments b).dropLast = [] := by
        rw [hsegments, List.length_cons] at hshort
        rw [← List.length_eq_zero_iff, List.length_dropLast]
        omega
      rw [← Path.dropLast_append_lastSegment b, hfront, List.nil_append]
    have hx : ∀ c ∈ x, c ∈ dotChars := fun c hc =>
      mem_of_dots (meaning_eq_up_iff.1 hup) (List.mem_append_right _ hc)
    have hclimb := huri.climb hp hserves hx hpass
    exact Target.not_floor_prefix_of_climb hground hp hb hscheme hts hone
      (hplain _ (Path.lastSegment_mem b)) hup (fun hpin => hnot ⟨by rw [hb, hpin.1], hpin.2⟩)
      hclimb.1 (h _ hclimb)

end

/-- Under a pattern without braces a gateway confines exactly if its base path is steady, or if
there is nothing to confine. -/
theorem confines_iff_isSteady {c : GatewayConfig} {g : Gateway} (hc : c.isValid = true)
    (hg : ofConfig c.service = .ok g) (hl : PathPattern.IsLiteral c.service.pathStart) :
    g.Confines ↔ ((∃ uri, g.Admits uri) → g.target.IsSteady) := by
  obtain ⟨hscheme, ⟨p, hp⟩, b, hb⟩ := shape_of_isValid hc hg
  obtain ⟨htarget, hpattern⟩ := ofConfig_eq_ok_iff.1 hg
  obtain ⟨-, -, -, -, -, hstart, -⟩ := Target.ofConfig_eq_ok_iff.1 htarget
  obtain ⟨ts, hts, hground⟩ := Target.ground_eq_print htarget hscheme
  have hserves : ∀ path, g.pattern.serves path = true ↔
      path = '/' :: p ∨ ('/' :: p ++ ['/']) <+: path := by
    rw [← hp, hstart]
    exact PathPattern.serves_of_isLiteral hpattern hl
  rw [confines_iff]
  constructor
  · rintro h ⟨uri, huri⟩
    exact isSteady_of_floor_prefix hp hserves hb hscheme hts hground h huri
  · intro h uri huri
    exact floor_prefix_of_isSteady hp hserves hb hscheme hts hground (h ⟨uri, huri⟩) huri

/-! ## Patterns with braces -/

/-- The gateway with another base path. -/
def withBasePath (g : Gateway) (b : Text) : Gateway :=
  { g with target := { g.target with basePath := b } }

/-- It is the one that is set up if the configuration has that base path. -/
theorem ofConfig_withBasePath {c : ServiceConfig} {g : Gateway} (h : ofConfig c = .ok g)
    (b : Text) : ofConfig { c with basePath := b } = .ok (g.withBasePath b) := by
  rw [ofConfig_eq_ok_iff] at h ⊢
  obtain ⟨htarget, hpattern⟩ := h
  refine ⟨?_, hpattern⟩
  rw [Target.ofConfig_eq_ok_iff] at htarget ⊢
  obtain ⟨a, hbase, ha, hhost, htype, hstart, -⟩ := htarget
  exact ⟨a, hbase, ha, hhost, htype, hstart, rfl⟩

/-- The filled pattern is admitted if any request is. -/
theorem Admits.fill {g : Gateway} {t : Text} (hg : PathPattern.parse? t = some g.pattern)
    {uri : RequestUri} (h : g.Admits uri) :
    g.Admits ⟨none, none, PathPattern.fill g.pattern.pieces, none⟩ := by
  obtain ⟨hchars, hserves, hdots⟩ := h
  unfold PathPattern.serves at hserves
  split at hserves
  · rename_i rest hmatch
    have hrest : rest = [] ∨ ∃ r, rest = '/' :: r := by
      cases rest with
      | nil => exact .inl rfl
      | cons c r =>
        obtain rfl : c = '/' := by simpa using hserves
        exact .inr ⟨r, rfl⟩
    refine ⟨fun c hc => ?_, PathPattern.serves_fill hg, ?_⟩
    · rcases PathPattern.mem_of_mem_fill hmatch hc with hc | rfl
      · exact hchars c hc
      · decide
    · rw [hasDotSegment_eq_false_iff] at hdots ⊢
      have hend := (PathPattern.readAs_of_piecesOf? (PathPattern.parse?_eq_some hg)).capturesEnd
      exact PathPattern.plain_fill hend [] hmatch hrest hdots
  · cases hserves

/-- A base path of one letter is steady. -/
theorem isSteady_withBasePath (g : Gateway) {d : Char} (hd : d = 'x' ∨ d = 'y') :
    (g.withBasePath ['/', d]).target.IsSteady := by
  have hread : (g.withBasePath ['/', d]).target.readBase = ['/', d] := by
    rcases hd with rfl | rfl <;> rfl
  refine ⟨?_, .inr (.inl ?_)⟩
  · rw [hread]
    rcases hd with rfl | rfl <;> decide
  · rintro ⟨x, hup, -⟩
    rw [hread, Path.lastSegment_slash, Path.lastSegment] at hup
    have hplain : UrlPath.meaning (d :: x) = .plain :=
      meaning_cons_of_ne (by rcases hd with rfl | rfl <;> decide)
        (by rcases hd with rfl | rfl <;> decide) x
    have hsegment : (Path.segments [d]).getLastD [] ++ x = d :: x := by
      rcases hd with rfl | rfl <;> rfl
    rw [hsegment, hplain] at hup
    cases hup

/-- Under a pattern with a brace the filled pattern goes through as it is, whatever the base path:
no gateway whose base path is not where the pattern starts anyway confines it. -/
theorem confines_iff_of_brace {c : GatewayConfig} {g : Gateway} (hc : c.isValid = true)
    (hg : ofConfig c.service = .ok g) (hl : ¬ PathPattern.IsLiteral c.service.pathStart) :
    (∀ b, GatewayConfig.basePathCauses b = [] → (g.withBasePath b).target.IsSteady →
      (g.withBasePath b).Confines) ↔ ¬ ∃ uri, g.Admits uri := by
  obtain ⟨hscheme, ⟨p, hp⟩, -⟩ := shape_of_isValid hc hg
  obtain ⟨htarget, hpattern⟩ := ofConfig_eq_ok_iff.1 hg
  obtain ⟨-, -, -, -, -, hstart, -⟩ := Target.ofConfig_eq_ok_iff.1 htarget
  obtain ⟨ts, hts, hground⟩ := Target.ground_eq_print htarget hscheme
  constructor
  · rintro h ⟨uri, huri⟩
    have hfill := huri.fill hpattern
    obtain ⟨ps, hps⟩ := PathPattern.pieces_eq_cons hpattern (by rw [← hstart, hp]; rfl)
    have hpath : PathPattern.fill g.pattern.pieces = '/' :: PathPattern.fill ps := by
      rw [hps, PathPattern.fill]
    have hplain : ∀ s ∈ Path.segments (PathPattern.fill ps), UrlPath.meaning s = .plain := by
      have hdots := hfill.2.2
      rw [hasDotSegment_eq_false_iff, hpath, Path.segments_slash] at hdots
      exact fun s hs => hdots s (List.mem_cons_of_mem _ hs)
    have hkept (b : Text) : Target.relocate (PathPattern.fill g.pattern.pieces)
        (g.withBasePath b).target.pathStart (g.withBasePath b).target.readBase =
          '/' :: PathPattern.fill ps := by
      rw [← hpath]
      refine Text.replaceAll_of_not_infix (show g.target.pathStart ≠ [] by simp [hp]) _ fun hi => ?_
      have hlt := PathPattern.length_fill_lt hpattern hl
      have hle := hi.length_le
      rw [hstart] at hle
      omega
    have hfloor {d : Char} (hd : d = 'x' ∨ d = 'y') :
        ['/', d] <+: UrlPath.written ('/' :: PathPattern.fill ps) := by
      have hvalid : GatewayConfig.basePathCauses ['/', d] = [] := by
        rcases hd with rfl | rfl <;> cbv
      have hpre := confines_iff.1 (h _ hvalid (isSteady_withBasePath g hd)) _ hfill
      have hurl := Target.path_url_of_plain (t := (g.withBasePath ['/', d]).target) hscheme hts
        hground (show g.target.pathStart ≠ [] by simp [hp]) hfill.1 (hkept _) hplain
      rw [hurl, Target.floor] at hpre
      have hwritten : UrlPath.written (g.withBasePath ['/', d]).target.readBase = ['/', d] := by
        rcases hd with rfl | rfl <;> rfl
      rw [hwritten] at hpre
      exact (List.prefix_append_right_inj _).1 hpre
    have hsame := List.prefix_of_prefix_length_le (hfloor (.inl rfl)) (hfloor (.inr rfl)) (by simp)
    exact absurd hsame (by decide)
  · intro h b _ _
    exact confines_iff.2 fun uri huri => absurd ⟨uri, huri⟩ h

/-! ## When a gateway confines -/

/-- A valid configuration whose start has no brace confines exactly if its base path is steady, or
if there is nothing to confine.  Whatever its start, if the base path has no dot segments and cannot
be completed to one, it confines exactly if replacement leaves the base path at the front.  With a
brace in the start that is not up to the base path: the steady ones are all confined exactly if
there is nothing to confine. -/
theorem confines_iff_of_isValid {c : GatewayConfig} {g : Gateway} (hc : c.isValid = true)
    (hg : ofConfig c.service = .ok g) :
    (PathPattern.IsLiteral c.service.pathStart →
      (g.Confines ↔ ((∃ uri, g.Admits uri) → g.target.IsSteady))) ∧
    ((∀ s ∈ Path.segments g.target.readBase, UrlPath.meaning s = .plain) → ¬ g.target.CanClimb →
      (g.Confines ↔ ∀ uri, g.Admits uri → UrlPath.written g.target.readBase <+:
        UrlPath.written (Target.relocate uri.path g.target.pathStart g.target.readBase))) ∧
    (¬ PathPattern.IsLiteral c.service.pathStart →
      ((∀ b, GatewayConfig.basePathCauses b = [] → (g.withBasePath b).target.IsSteady →
        (g.withBasePath b).Confines) ↔ ¬ ∃ uri, g.Admits uri)) :=
  ⟨confines_iff_isSteady hc hg, confines_iff_of_not_canClimb hc hg, confines_iff_of_brace hc hg⟩

/-- The defaults, for a service on this machine. -/
theorem confines_iff_loopback :
    GatewayConfig.isValid { service := .loopback } = true ∧ ofConfig .loopback = .ok loopback ∧
    (PathPattern.IsLiteral "/openai" →
      (loopback.Confines ↔ ((∃ uri, loopback.Admits uri) → loopback.target.IsSteady))) ∧
    ((∀ s ∈ Path.segments loopback.target.readBase, UrlPath.meaning s = .plain) →
      ¬ loopback.target.CanClimb →
      (loopback.Confines ↔ ∀ uri, loopback.Admits uri →
        UrlPath.written loopback.target.readBase <+: UrlPath.written
          (Target.relocate uri.path loopback.target.pathStart loopback.target.readBase))) ∧
    (¬ PathPattern.IsLiteral "/openai" →
      ((∀ b, GatewayConfig.basePathCauses b = [] → (loopback.withBasePath b).target.IsSteady →
        (loopback.withBasePath b).Confines) ↔ ¬ ∃ uri, loopback.Admits uri)) :=
  ⟨GatewayConfig.isValid_loopback, ofConfig_loopback,
    confines_iff_of_isValid GatewayConfig.isValid_loopback ofConfig_loopback⟩

/-- With the base path `/` the request for `/openai/openai../openai../x` goes to `/x`, outside of
the path `/api` of the base URL. -/
theorem not_confines_root :
    GatewayConfig.isValid { service := { ServiceConfig.loopback with basePath := "/" } } = true ∧
    ofConfig { ServiceConfig.loopback with basePath := "/" } = .ok (loopback.withBasePath "/") ∧
    RequestUri.parse (Text.utf8 "/openai/openai../openai../x") =
      .ok ⟨none, none, "/openai/openai../openai../x", none⟩ ∧
    ∃ o, (loopback.withBasePath "/").judge Credential.bareHeader
        ⟨"GET", ⟨none, none, "/openai/openai../openai../x", none⟩, []⟩ = .forward o ∧
      o.url.path = "/x" ∧ (loopback.withBasePath "/").target.floor = "/api/" ∧
      ¬ (loopback.withBasePath "/").target.floor <+: o.url.path := by
  have hpath : ((loopback.withBasePath "/").target.url
      ⟨none, none, "/openai/openai../openai../x", none⟩).path = "/x" := by
    have hts : ∀ s ∈ ["api".toList], UrlPath.IsNormal s := fun s hs => by
      rw [List.mem_singleton.1 hs]
      exact ⟨rfl, Text.of_all (by decide)⟩
    rw [Target.path_url (.inl rfl) hts rfl (by decide) (by decide) (w := "/../../x") (by cbv)]
    rfl
  have hfloor : (loopback.withBasePath "/").target.floor = "/api/" := by cbv
  have hdots : Path.hasDotSegment "/openai/openai../openai../x" = false := by cbv
  have hvalid : GatewayConfig.isValid
      { service := { ServiceConfig.loopback with basePath := "/" } } = true := by
    have h := GatewayConfig.isValid_iff.1 GatewayConfig.isValid_loopback
    exact GatewayConfig.isValid_iff.2 ⟨h.1, h.2.1, h.2.2.1, by cbv, h.2.2.2.2⟩
  have huri : RequestUri.parse (Text.utf8 "/openai/openai../openai../x") =
      .ok ⟨none, none, "/openai/openai../openai../x", none⟩ := by cbv
  refine ⟨hvalid, ofConfig_withBasePath ofConfig_loopback "/", huri, _,
    judge_eq_forward_iff.2 ⟨by decide, hdots, rfl⟩, hpath, hfloor, ?_⟩
  rw [hfloor]
  show ¬ "/api/".toList <+: ((loopback.withBasePath "/").target.url
      ⟨none, none, "/openai/openai../openai../x", none⟩).path
  rw [hpath]
  decide

end Gateway

end CredentialGateway
