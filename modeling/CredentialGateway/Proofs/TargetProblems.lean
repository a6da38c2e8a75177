import CredentialGateway.Proofs.FieldProblems
import CredentialGateway.Proofs.Startup

/-!
# Problems that stand in the way of a target

Validation collects what is wrong with a configuration; the target is read from the same texts by
itself and stops at the first thing that is wrong.  The two agree: a problem stands in the way of a
target if the base URL cannot be read or has no host, or if the content type is no header value, and
the first such problem in the report is the reason that the target gives.  A scheme that is not
supported does not stand in its way, and no host ever fails to be a header value.

    target = .error ⟨url, cause⟩ ↔ cause is that of the first such problem (ofConfig_eq_error_iff)
    the target is there ↔ there is no such problem                         (exists_ofConfig_iff)
-/

namespace CredentialGateway

namespace Problem

/-- The reason for which there is no target where the configuration has this problem. -/
def targetCause? : Problem → Option TargetCause
  | ⟨.baseUrl, .url e⟩ => some (.url e)
  | ⟨.baseUrl, .hostMissing⟩ => some .hostMissing
  | ⟨.contentType, _⟩ => some .contentType
  | _ => none

/-- Of the base URL both say the same. -/
theorem message_of_targetCause? {p : Problem} {cause : TargetCause} (hp : p.field = .baseUrl)
    (h : p.targetCause? = some cause) : cause.message = p.message := by
  obtain ⟨field, pcause⟩ := p
  cases hp
  cases pcause <;> cases h <;> rfl

theorem targetCause?_ne_hostValue {p : Problem} : p.targetCause? ≠ some .hostValue := by
  unfold targetCause?
  split <;> simp

end Problem

namespace GatewayConfig

theorem of_mem_baseUrlCauses {t : Text} {cause : ProblemCause} (h : cause ∈ baseUrlCauses t) :
    (∃ e, cause = .url e) ∨ (∃ name, cause = .scheme name) ∨ cause = .hostMissing := by
  unfold baseUrlCauses at h
  split at h
  · exact .inl ⟨_, List.mem_singleton.1 h⟩
  · rcases List.mem_append.1 h with h | h
    · split at h
      · cases h
      · exact .inr (.inl ⟨_, List.mem_singleton.1 h⟩)
    · split at h
      · exact .inr (.inr (List.mem_singleton.1 h))
      · cases h

/-- Of what is reported, all of the content type stands in the way, and of the base URL all but the
scheme. -/
theorem targetCause?_eq_none_iff {c : GatewayConfig} {p : Problem} (h : p ∈ c.problems) :
    p.targetCause? = none ↔
      p.field ≠ .contentType ∧ (p.field = .baseUrl → ∃ name, p.cause = .scheme name) := by
  have hcause := mem_problems_iff.1 h
  obtain ⟨field, cause⟩ := p
  cases field with
  | baseUrl =>
    rcases of_mem_baseUrlCauses hcause with ⟨e, rfl⟩ | ⟨name, rfl⟩ | rfl <;>
      simp [Problem.targetCause?]
  | _ => simp [Problem.targetCause?]

/-- The reasons for which there is no target, in the order of the report. -/
def targetCauses (c : GatewayConfig) : List TargetCause :=
  c.problems.filterMap Problem.targetCause?

/-- Only base URL and content type matter. -/
theorem targetCauses_eq (c : GatewayConfig) : c.targetCauses =
    (c.problemsOf .baseUrl).filterMap Problem.targetCause? ++
      (c.problemsOf .contentType).filterMap Problem.targetCause? := by
  have hnone (f : ConfigField) (hurl : f ≠ .baseUrl) (htype : f ≠ .contentType) :
      (c.problemsOf f).filterMap Problem.targetCause? = [] := by
    rw [List.filterMap_eq_nil_iff]
    intro p hp
    obtain ⟨cause, -, rfl⟩ := List.mem_map.1 hp
    cases f <;> first | rfl | contradiction
  rw [targetCauses, problems_eq, List.filterMap_flatMap]
  simp only [ConfigField.checked, List.flatMap_cons, List.flatMap_nil,
    hnone .socketPath (by decide) (by decide), hnone .pathStart (by decide) (by decide),
    hnone .basePath (by decide) (by decide), hnone .credentialEnv (by decide) (by decide),
    List.nil_append, List.append_nil]

theorem problemsOf_baseUrl_of_error {c : GatewayConfig} {e : UrlError}
    (h : Url.parse c.service.baseUrl = .error e) :
    c.problemsOf .baseUrl = [⟨.baseUrl, .url e⟩] := by
  change (baseUrlCauses c.service.baseUrl).map _ = _
  rw [baseUrlCauses, h]
  rfl

theorem targetCauses_of_error {c : GatewayConfig} {e : UrlError}
    (h : Url.parse c.service.baseUrl = .error e) : c.targetCauses.head? = some (.url e) := by
  rw [targetCauses_eq, problemsOf_baseUrl_of_error h]
  rfl

/-- A base URL that is read has a host or lacks it; its scheme does not matter. -/
theorem targetCauses_of_ok {c : GatewayConfig} {u : Url}
    (h : Url.parse c.service.baseUrl = .ok u) : c.targetCauses =
      (if u.authority.isNone then [.hostMissing] else []) ++
        if (HeaderValue.ofText? c.service.contentType).isNone then [.contentType] else [] := by
  have hurl : (c.problemsOf .baseUrl).filterMap Problem.targetCause? =
      if u.authority.isNone then [.hostMissing] else [] := by
    change ((baseUrlCauses c.service.baseUrl).map _).filterMap _ = _
    rw [baseUrlCauses, h]
    dsimp only
    split <;> split <;> rfl
  have htype : (c.problemsOf .contentType).filterMap Problem.targetCause? =
      if (HeaderValue.ofText? c.service.contentType).isNone then [.contentType] else [] := by
    change ((contentTypeCauses c.service.contentType).map _).filterMap _ = _
    rw [contentTypeCauses]
    split <;> rfl
  rw [targetCauses_eq, hurl, htype]

end GatewayConfig

namespace Target

open GatewayConfig (targetCauses targetCauses_of_error targetCauses_of_ok)

/-- A target stops at the first reason, and is there if there is none. -/
theorem ofConfig_cases (c : GatewayConfig) :
    (∃ cause, c.targetCauses.head? = some cause ∧
      ofConfig c.service = .error ⟨c.service.baseUrl, cause⟩) ∨
    c.targetCauses = [] ∧ ∃ t, ofConfig c.service = .ok t := by
  cases hurl : Url.parse c.service.baseUrl with
  | error e =>
    refine .inl ⟨.url e, targetCauses_of_error hurl, ?_⟩
    rw [ofConfig, ofConfigCause, hurl]
    rfl
  | ok u =>
    rw [targetCauses_of_ok hurl]
    cases ha : u.authority with
    | none =>
      refine .inl ⟨.hostMissing, rfl, ?_⟩
      simp only [ofConfig, ofConfigCause, hurl, Except.mapError, bind, Except.bind, ha]
      rfl
    | some a =>
      -- what has been read as a host is a header value
      obtain ⟨host, hhost⟩ := Option.isSome_iff_exists.1
        (Authority.isSome_ofText?_hostPort ((Url.isRead_of_parse hurl).authority a ha))
      cases htype : HeaderValue.ofText? c.service.contentType with
      | none =>
        refine .inl ⟨.contentType, rfl, ?_⟩
        simp only [ofConfig, ofConfigCause, hurl, Except.mapError, bind, Except.bind, ha, hhost,
          htype]
        rfl
      | some contentType =>
        refine .inr ⟨rfl, ⟨u, host, c.service.pathStart, c.service.basePath, contentType⟩, ?_⟩
        exact ofConfig_eq_ok_iff.2 ⟨a, hurl, ha, hhost, htype, rfl, rfl⟩

theorem ofConfig_eq_error_iff {c : GatewayConfig} {e : TargetError} :
    ofConfig c.service = .error e ↔
      e.baseUrl = c.service.baseUrl ∧ c.targetCauses.head? = some e.cause := by
  rcases ofConfig_cases c with ⟨cause, hhead, h⟩ | ⟨hnil, t, h⟩
  · rw [h, hhead, Except.error.injEq, Option.some.injEq]
    constructor
    · rintro rfl
      exact ⟨rfl, rfl⟩
    · rintro ⟨hurl, rfl⟩
      rw [← hurl]
  · rw [h, hnil]
    simp

theorem exists_ofConfig_iff {c : GatewayConfig} :
    (∃ t, ofConfig c.service = .ok t) ↔ c.targetCauses = [] := by
  rcases ofConfig_cases c with ⟨cause, hhead, h⟩ | ⟨hnil, t, h⟩
  · rw [h]
    simp only [reduceCtorEq, exists_false, false_iff]
    rintro hnil
    rw [hnil] at hhead
    cases hhead
  · simp [h, hnil]

/-! ## Agreement -/

/-- The report on a configuration and the target read from it agree. -/
structure AgreesWithReport (c : GatewayConfig) : Prop where
  /-- The target is there if nothing is wrong with the content type, and nothing with the base URL
  but its scheme. -/
  succeeds : (∃ t, ofConfig c.service = .ok t) ↔ (∀ p ∈ c.problems, p.field ≠ .contentType) ∧
    ∀ p ∈ c.problems, p.field = .baseUrl → ∃ name, p.cause = .scheme name
  /-- A base URL that cannot be read has one problem, and the target gives the same reason. -/
  unread : ∀ e, Url.parse c.service.baseUrl = .error e →
    ∃ p reason, c.problems.filter (·.field = .baseUrl) = [p] ∧
      ofConfig c.service = .error reason ∧ reason.cause.message = p.message
  /-- Both say that there is no host. -/
  hostless : ∀ u, Url.parse c.service.baseUrl = .ok u → u.authority = none →
    ∃ p ∈ c.problems, ∃ reason, p.field = .baseUrl ∧ ofConfig c.service = .error reason ∧
      p.message = "missing host" ∧ reason.cause.message = "missing host"
  /-- Where there are several reasons the target gives the one that is reported first. -/
  first : ∀ reason, ofConfig c.service = .error reason ↔
    reason.baseUrl = c.service.baseUrl ∧
      (c.problems.filterMap Problem.targetCause?).head? = some reason.cause
  /-- Every host is a header value. -/
  hostValue : ∀ reason, ofConfig c.service = .error reason → reason.cause ≠ .hostValue

theorem agreesWithReport (c : GatewayConfig) : AgreesWithReport c where
  succeeds := by
    rw [exists_ofConfig_iff, targetCauses, List.filterMap_eq_nil_iff, ← forall₂_and]
    exact forall₂_congr fun p hp => GatewayConfig.targetCause?_eq_none_iff hp
  unread := by
    intro e he
    refine ⟨⟨.baseUrl, .url e⟩, ⟨c.service.baseUrl, .url e⟩, ?_,
      ofConfig_eq_error_iff.2 ⟨rfl, targetCauses_of_error he⟩,
      Problem.message_of_targetCause? rfl rfl⟩
    rw [GatewayConfig.filter_problems, GatewayConfig.problemsOf_baseUrl_of_error he]
  hostless := by
    intro u hu ha
    refine ⟨⟨.baseUrl, .hostMissing⟩, GatewayConfig.mem_problems_iff.2 ?_,
      ⟨c.service.baseUrl, .hostMissing⟩, rfl, ofConfig_eq_error_iff.2 ⟨rfl, ?_⟩, rfl, rfl⟩
    · change _ ∈ GatewayConfig.baseUrlCauses c.service.baseUrl
      simp [GatewayConfig.baseUrlCauses, hu, ha]
    · rw [targetCauses_of_ok hu, ha]
      rfl
  first := fun _ => ofConfig_eq_error_iff
  hostValue := by
    intro reason h hvalue
    have hmem := List.mem_of_mem_head? (ofConfig_eq_error_iff.1 h).2
    obtain ⟨p, -, hp⟩ := List.mem_filterMap.1 hmem
    rw [hvalue] at hp
    exact Problem.targetCause?_ne_hostValue hp

end Target

end CredentialGateway
