import CredentialGateway.Config.Validate
import CredentialGateway.Gateway
import CredentialGateway.Proofs.ParsedUrl
import Mathlib

/-!
# What a gateway has been checked for

A gateway is set up from a configuration without problems.  What the checks of its fields let pass,
what the target has been read from, and when a request is forwarded are each one law, so nothing
behind here opens the checks again.

    Target.ofConfig c = .ok t ↔ the parts of t are those that c gives      (ofConfig_eq_ok_iff)
    judge = .forward o ↔ served, no dot segment, and o is the outbound request
-/

namespace CredentialGateway

/-! ## Header values -/

theorem HeaderValue.ofText?_eq_some_iff {t : Text} {v : HeaderValue} :
    HeaderValue.ofText? t = some v ↔ v.bytes = t.utf8 ∧ v.sensitive = false := by
  unfold HeaderValue.ofText? HeaderValue.ofBytes?
  constructor
  · intro h
    split at h
    · cases h
      exact ⟨rfl, rfl⟩
    · cases h
  · rintro ⟨hb, hs⟩
    obtain ⟨bytes, sensitive, valid⟩ := v
    subst hb hs
    rw [dif_pos valid]

theorem HeaderValue.isSome_ofBytes? (bs : Bytes) :
    (HeaderValue.ofBytes? bs).isSome = bs.all isFieldByte := by
  unfold HeaderValue.ofBytes?
  split <;> simp_all

/-! ## Validation -/

namespace GatewayConfig

/-- A configuration is valid if no field is at fault. -/
theorem isValid_iff {c : GatewayConfig} : c.isValid = true ↔
    socketPathCauses c.listener.socketPath = [] ∧ baseUrlCauses c.service.baseUrl = [] ∧
    pathStartCauses c.service.pathStart = [] ∧ basePathCauses c.service.basePath = [] ∧
    credentialEnvCauses c.service.credentialEnv = [] ∧
    contentTypeCauses c.service.contentType = [] := by
  simp only [isValid, problems, List.isEmpty_iff, List.append_eq_nil_iff, List.map_eq_nil_iff,
    and_assoc]

theorem baseUrlCauses_eq_nil_iff {t : Text} : baseUrlCauses t = [] ↔
    ∃ u, Url.parse t = .ok u ∧ (u.scheme = "http" ∨ u.scheme = "https") ∧
      u.authority.isSome := by
  unfold baseUrlCauses
  cases Url.parse t with
  | error e => simp
  | ok u => simp [Option.isSome_iff_ne_none, or_iff_not_imp_left]

theorem pathStartCauses_eq_nil_iff {t : Text} : pathStartCauses t = [] ↔
    t.head? = some '/' ∧ t.getLast? ≠ some '/' := by
  unfold pathStartCauses
  by_cases h : t.head? = some '/' <;> simp [h]

theorem basePathCauses_eq_nil_iff {t : Text} : basePathCauses t = [] ↔
    t.head? = some '/' ∧ Path.hasDotSegment t = false := by
  unfold basePathCauses
  by_cases h : t.head? = some '/' <;> simp [h]

theorem contentTypeCauses_eq_nil_iff {t : Text} :
    contentTypeCauses t = [] ↔ (HeaderValue.ofText? t).isSome = true := by
  unfold contentTypeCauses
  cases HeaderValue.ofText? t <;> simp

end GatewayConfig

/-! ## Targets -/

namespace Target

theorem ofConfig_eq_ok_iff {c : ServiceConfig} {t : Target} : ofConfig c = .ok t ↔
    ∃ a, Url.parse c.baseUrl = .ok t.base ∧ t.base.authority = some a ∧
      HeaderValue.ofText? a.hostPort = some t.host ∧
      HeaderValue.ofText? c.contentType = some t.contentType ∧
      t.pathStart = c.pathStart ∧ t.basePath = c.basePath := by
  rw [ofConfig, mapError_eq_ok_iff]
  simp only [ofConfigCause, bind_eq_ok_iff, mapError_eq_ok_iff]
  constructor
  · rintro ⟨base, hbase, h⟩
    split at h
    · rename_i a ha
      split at h
      · rename_i host hhost
        split at h
        · rename_i contentType hct
          cases pure_eq_ok_iff.1 h
          exact ⟨a, hbase, ha, hhost, hct, rfl, rfl⟩
        · exact absurd h throw_ne_ok
      · exact absurd h throw_ne_ok
    · exact absurd h throw_ne_ok
  · rintro ⟨a, hbase, ha, hhost, hct, hp, hb⟩
    refine ⟨t.base, hbase, ?_⟩
    rw [ha]
    simp only [hhost, hct, ← hp, ← hb]
    rfl

end Target

/-! ## Gateways -/

namespace Gateway

theorem ofConfig_eq_ok_iff {c : ServiceConfig} {g : Gateway} : ofConfig c = .ok g ↔
    Target.ofConfig c = .ok g.target ∧ PathPattern.parse? c.pathStart = some g.pattern := by
  simp only [ofConfig, bind_eq_ok_iff, mapError_eq_ok_iff]
  constructor
  · rintro ⟨t, ht, h⟩
    split at h
    · rename_i pattern hp
      cases pure_eq_ok_iff.1 h
      exact ⟨ht, hp⟩
    · exact absurd h throw_ne_ok
  · rintro ⟨ht, hp⟩
    refine ⟨g.target, ht, ?_⟩
    rw [hp]
    rfl

/-- A request goes on if its path is served and has no dot segment. -/
theorem judge_eq_forward_iff {g : Gateway} {authorization : HeaderValue} {r : RequestHead}
    {o : Outbound} : g.judge authorization r = .forward o ↔
      g.pattern.serves r.uri.path = true ∧ Path.hasDotSegment r.uri.path = false ∧
        g.target.outbound authorization r = o := by
  unfold judge
  cases g.pattern.serves r.uri.path <;> cases Path.hasDotSegment r.uri.path <;> simp

end Gateway

/-! ## A service on this machine -/

/-- The defaults, for a service that is reached by address. -/
def ServiceConfig.loopback : ServiceConfig := { baseUrl := "http://[::1]:8080/api/" }

def Target.loopback : Target where
  base := {
    scheme := "http"
    authority := some { host := .ipv6 [0, 0, 0, 0, 0, 0, 0, 1], port := some 8080 }
    path := "/api/"
    query := none
    fragment := none }
  host := ⟨Text.utf8 "[::1]:8080", false, by decide⟩
  pathStart := "/openai"
  basePath := "/v1"
  contentType := ⟨Text.utf8 "application/json", false, by decide⟩

def Gateway.loopback : Gateway := ⟨.loopback, ⟨"/openai".toList.map .exact⟩⟩

theorem Url.parse_loopback :
    Url.parse ServiceConfig.loopback.baseUrl = .ok Target.loopback.base := rfl

theorem Gateway.ofConfig_loopback : ofConfig .loopback = .ok .loopback :=
  ofConfig_eq_ok_iff.2 ⟨Target.ofConfig_eq_ok_iff.2
    ⟨_, Url.parse_loopback, rfl, rfl, rfl, rfl, rfl⟩, by cbv⟩

theorem GatewayConfig.isValid_loopback : isValid { service := .loopback } = true :=
  isValid_iff.2 ⟨rfl, baseUrlCauses_eq_nil_iff.2 ⟨_, Url.parse_loopback, .inl rfl, rfl⟩,
    by decide, by cbv, by cbv, by cbv⟩

end CredentialGateway
