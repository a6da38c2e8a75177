import CredentialGateway.Proofs.HostText
import CredentialGateway.Proofs.PatternGrammar
import CredentialGateway.Proofs.Setup

/-!
# Starting with a valid configuration

What validation lets pass is read again when the gateway is set up.  A host that has been read, with
its port, holds no control character, so a header value can hold it, and the content type has been
checked to be one: the target is always there.  Of the path under which requests are forwarded only
the two slashes have been checked, and a gateway needs a pattern.  Without one it does not start.

    (ofText? t).isSome ↔ no control character but TAB in t             (isSome_ofText?_iff)
    c valid → the target is there                                      (exists_ofConfig_of_isValid)
    c valid → the gateway is there, or the path start is no pattern    (ofConfig_of_isValid)
-/

namespace CredentialGateway

/-! ## Texts that are header values -/

/-- A character that a header value may hold: TAB, and all from the space on but DEL. -/
def isFieldChar (c : Char) : Bool := c == '\t' || (0x20 ≤ c.toNat && c.toNat != 0x7F)

theorem isFieldByte_ofNat {n : Nat} (h : n < 0x100) : isFieldByte (UInt8.ofNat n) = true ↔
    n = 9 ∨ 0x20 ≤ n ∧ n ≠ 0x7F := by
  simp [isFieldByte, UInt8.le_iff_toNat_le, ← UInt8.toNat_inj, Nat.mod_eq_of_lt h]

/-- Beyond ASCII all bytes of a character have the high bit, and may stand in a header value. -/
theorem all_isFieldByte_utf8EncodeChar (c : Char) :
    (String.utf8EncodeChar c).all isFieldByte = isFieldChar c := by
  have high : ∀ n < 0x100, 0x80 ≤ n → isFieldByte (UInt8.ofNat n) = true := fun n hn h =>
    (isFieldByte_ofNat hn).2 (by omega)
  have hchar : isFieldChar c = true ↔ c.toNat = 9 ∨ 0x20 ≤ c.toNat ∧ c.toNat ≠ 0x7F := by
    simp [isFieldChar, ← Char.toNat_inj]
  rw [Bool.eq_iff_iff, hchar, Bytes.utf8EncodeChar_eq]
  split
  · rw [List.all_cons, List.all_nil, Bool.and_true]
    exact isFieldByte_ofNat (by omega)
  · refine iff_of_true ?_ (by omega)
    split
    · simp only [List.all_cons, List.all_nil, Bool.and_true, Bool.and_eq_true]
      exact ⟨high _ (by omega) (by omega), high _ (by omega) (by omega)⟩
    · split
      · simp only [List.all_cons, List.all_nil, Bool.and_true, Bool.and_eq_true]
        exact ⟨high _ (by omega) (by omega), high _ (by omega) (by omega),
          high _ (by omega) (by omega)⟩
      · simp only [List.all_cons, List.all_nil, Bool.and_true, Bool.and_eq_true]
        exact ⟨high _ (by omega) (by omega), high _ (by omega) (by omega),
          high _ (by omega) (by omega), high _ (by omega) (by omega)⟩

theorem HeaderValue.isSome_ofText?_iff {t : Text} :
    (ofText? t).isSome = true ↔ ∀ c ∈ t, isFieldChar c = true := by
  rw [ofText?, isSome_ofBytes?, Text.utf8, List.all_flatMap, List.all_eq_true]
  simp only [all_isFieldByte_utf8EncodeChar]

/-! ## Hosts with their ports -/

/-- What no domain may hold includes all control characters. -/
theorem Domain.isFieldChar_of_not_isForbidden {c : Char} (h : isForbidden c = false) :
    isFieldChar c = true := by
  simp [isForbidden] at h
  simp [isFieldChar]
  omega

theorem Percent.isFieldChar_of_not_controlSet {c : Char} (h : controlSet c = false) :
    isFieldChar c = true := by
  simp [controlSet] at h
  simp [isFieldChar]
  omega

/-- A name has been checked, or encoded; an address is written in digits. -/
theorem Host.isFieldChar_of_mem_text {t : Text} {h : Host}
    (hp : parse t = .ok h ∨ parsePlain t = .ok h) {c : Char} (hc : c ∈ h.text) :
    isFieldChar c = true := by
  cases h with
  | domain name =>
    rcases hp with hp | hp
    · obtain ⟨plain, hplain⟩ := toAscii?_of_parse hp
      exact Domain.isFieldChar_of_not_isForbidden (Domain.isForbidden_of_toAscii? hplain hc)
    · obtain ⟨rfl, -⟩ := eq_encode_of_parsePlain hp
      exact Percent.isFieldChar_of_not_controlSet
        (Percent.set_of_mem_encode (Text.of_all (by decide)) hc)
  | ipv4 address =>
    have every : ∀ d ∈ "0123456789.".toList, isFieldChar d = true := Text.of_all (by decide)
    exact every c (Ipv4.mem_text hc)
  | ipv6 pieces =>
    have every : ∀ d ∈ "0123456789abcdef:".toList, isFieldChar d = true :=
      Text.of_all (by decide)
    simp only [text, List.mem_append, List.mem_cons, List.not_mem_nil, or_false] at hc
    rcases hc with (rfl | hc) | rfl
    · decide
    · exact every c (Ipv6.mem_text hc)
    · decide

/-- What has been read as an authority gives a `Host` header. -/
theorem Authority.isSome_ofText?_hostPort {scheme : Text} {a : Authority} (h : a.IsRead scheme) :
    (HeaderValue.ofText? a.hostPort).isSome = true := by
  obtain ⟨t, ht⟩ := h.host
  rw [HeaderValue.isSome_ofText?_iff]
  intro c hc
  unfold hostPort at hc
  split at hc
  · have every : ∀ d ∈ "0123456789".toList, isFieldChar d = true := Text.of_all (by decide)
    rcases List.mem_append.1 hc with hc | hc
    · exact Host.isFieldChar_of_mem_text ht hc
    · rcases List.mem_cons.1 hc with rfl | hc
      · decide
      · exact every c (Text.isDigit_of_mem_ofNat hc)
  · exact Host.isFieldChar_of_mem_text ht hc

/-! ## Targets and gateways -/

/-- What has been validated names a service. -/
theorem Target.exists_ofConfig_of_isValid {c : GatewayConfig} (hc : c.isValid = true) :
    ∃ t, ofConfig c.service = .ok t := by
  obtain ⟨-, hbase, -, -, -, htype⟩ := GatewayConfig.isValid_iff.1 hc
  obtain ⟨u, hu, -, ha⟩ := GatewayConfig.baseUrlCauses_eq_nil_iff.1 hbase
  obtain ⟨a, ha⟩ := Option.isSome_iff_exists.1 ha
  obtain ⟨host, hhost⟩ := Option.isSome_iff_exists.1
    (Authority.isSome_ofText?_hostPort ((Url.isRead_of_parse hu).authority a ha))
  obtain ⟨contentType, htype⟩ := Option.isSome_iff_exists.1
    (GatewayConfig.contentTypeCauses_eq_nil_iff.1 htype)
  exact ⟨⟨u, host, c.service.pathStart, c.service.basePath, contentType⟩,
    ofConfig_eq_ok_iff.2 ⟨a, hu, ha, hhost, htype, rfl, rfl⟩⟩

namespace Gateway

/-- With a target, all hangs on the pattern. -/
theorem ofConfig_of_target {c : ServiceConfig} {t : Target} (ht : Target.ofConfig c = .ok t) :
    ofConfig c = match PathPattern.parse? c.pathStart with
      | some pattern => .ok ⟨t, pattern⟩
      | none => .error .pattern := by
  rw [ofConfig, ht]
  rfl

/-- A valid configuration gives a gateway if the path under which it forwards is a pattern, and no
gateway for want of a pattern if it is none. -/
theorem ofConfig_of_isValid {c : GatewayConfig} (hc : c.isValid = true) :
    (PathPattern.IsPattern c.service.pathStart → ∃ g, ofConfig c.service = .ok g) ∧
      (¬ PathPattern.IsPattern c.service.pathStart →
        ofConfig c.service = .error .pattern) := by
  obtain ⟨t, ht⟩ := Target.exists_ofConfig_of_isValid hc
  rw [← PathPattern.isSome_parse?_iff, ofConfig_of_target ht]
  cases PathPattern.parse? c.service.pathStart with
  | none => simp
  | some pattern => simp

/-- The defaults are valid, and start. -/
theorem ofConfig_of_isValid_loopback :
    GatewayConfig.isValid { service := .loopback } = true ∧
      PathPattern.IsPattern ServiceConfig.loopback.pathStart ∧
      (∃ g, ofConfig ServiceConfig.loopback = .ok g) := by
  have hpattern : PathPattern.IsPattern ServiceConfig.loopback.pathStart :=
    PathPattern.isPattern_of_isLiteral rfl (by decide) (by decide)
  exact ⟨GatewayConfig.isValid_loopback, hpattern,
    (ofConfig_of_isValid GatewayConfig.isValid_loopback).1 hpattern⟩

/-- A colon behind a slash is a name in an older notation, which validation does not look for. -/
theorem not_exists_ofConfig_colon :
    GatewayConfig.isValid { service := { ServiceConfig.loopback with pathStart := "/a/:b" } }
        = true ∧
      ¬ ∃ g, ofConfig { ServiceConfig.loopback with pathStart := "/a/:b" } = .ok g := by
  have hvalid :
      GatewayConfig.isValid { service := { ServiceConfig.loopback with pathStart := "/a/:b" } }
        = true :=
    GatewayConfig.isValid_iff.2 ⟨rfl,
      GatewayConfig.baseUrlCauses_eq_nil_iff.2 ⟨_, Url.parse_loopback, .inl rfl, rfl⟩,
      by decide, by cbv, by cbv, by cbv⟩
  refine ⟨hvalid, ?_⟩
  rintro ⟨g, hg⟩
  have hp := (ofConfig_eq_ok_iff.1 hg).2
  have hnone : PathPattern.parse? "/a/:b" = none := by decide
  rw [hnone] at hp
  cases hp

end Gateway

end CredentialGateway
