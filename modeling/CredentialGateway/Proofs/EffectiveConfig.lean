import CredentialGateway.Proofs.Flags
import CredentialGateway.Proofs.Setup

/-!
# The configuration in effect

The flags of a command line are laid over a configuration that has been checked: that of the file
which they name, or the defaults.  No flag can spoil it, for the only check that looks at an
overridden field is that the socket path is not empty, and no flag gives an empty path.  So what is
in effect fails to be had only where the file fails to load.

    isValid reads the service, and whether there is a socket path           (isValid_of_service)
    resolve = .error e ↔ the file that is named fails to load with e      (resolve_eq_error_iff)
    resolve = .ok d ↔ d is what the flags make of what they are laid over    (resolve_eq_ok_iff)
-/

namespace CredentialGateway

/-! ## Validity -/

/-- Where the defaults lead to. -/
def Url.openai : Url where
  scheme := "https"
  authority := some { host := .domain "api.openai.com" }
  path := "/"
  query := none
  fragment := none

theorem Url.parse_openai : Url.parse ({} : ServiceConfig).baseUrl = .ok .openai := by cbv

namespace GatewayConfig

theorem isValid_defaults : ({} : GatewayConfig).isValid = true :=
  isValid_iff.2 ⟨rfl, baseUrlCauses_eq_nil_iff.2 ⟨_, Url.parse_openai, .inr rfl, rfl⟩,
    by decide, by cbv, by cbv, by cbv⟩

theorem socketPathCauses_eq_nil_iff {path : Text} : socketPathCauses path = [] ↔ path ≠ [] := by
  simp [socketPathCauses]

/-- Nothing but the service is checked, and that there is a socket path. -/
theorem isValid_of_service {c d : GatewayConfig} (h : c.isValid = true)
    (hservice : d.service = c.service) (hsocket : d.listener.socketPath ≠ []) :
    d.isValid = true := by
  obtain ⟨-, hrest⟩ := isValid_iff.1 h
  rw [← hservice] at hrest
  exact isValid_iff.2 ⟨socketPathCauses_eq_nil_iff.2 hsocket, hrest⟩

theorem socketPath_ne_nil_of_isValid {c : GatewayConfig} (h : c.isValid = true) :
    c.listener.socketPath ≠ [] :=
  socketPathCauses_eq_nil_iff.1 (isValid_iff.1 h).1

theorem check_of_isValid {c : GatewayConfig} (h : c.isValid = true) : check c = .ok c :=
  check_eq_ok_iff.2 ⟨rfl, List.isEmpty_iff.1 h⟩

end GatewayConfig

/-! ## Flags over a configuration -/

namespace CommandLine

/-- The text is the one given for the option, or the old one where none is given. -/
def Replaces (flags : List Flag) (o : CliOption) (old new : Text) : Prop :=
  (∀ v, .option o v ∈ flags → new = v) ∧ ((∀ v, .option o v ∉ flags) → new = old)

/-- The second configuration is what the flags make of the first. -/
structure Overrides (flags : List Flag) (base d : GatewayConfig) : Prop where
  socketPath : Replaces flags .socket base.listener.socketPath d.listener.socketPath
  logLevel : Replaces flags .logLevel base.observability.logLevel d.observability.logLevel
  format : d.observability.format = .json ↔
    .jsonLogs ∈ flags ∨ base.observability.format = .json
  service : d.service = base.service

/-- What the flags are laid over: the configuration in the file that they name, or the defaults
where they name none. -/
structure IsBase (flags : List Flag) (tree : FileTree) (home : Location) (base : GatewayConfig) :
    Prop where
  named : ∀ path, .option .config path ∈ flags → GatewayConfig.load tree home path = .ok base
  unnamed : (∀ path, .option .config path ∉ flags) → base = {}

/-- The configuration that is overridden. -/
def base (c : CommandLine) (tree : FileTree) (home : Location) :
    Except ConfigError GatewayConfig :=
  match c.config with
  | some path => GatewayConfig.load tree home path
  | none => .ok {}

section Resolving

variable {flags : List Flag} {c : CommandLine} {b d : GatewayConfig} {tree : FileTree}
  {home : Location} {e : ConfigError}

theorem resolve_eq_bind (c : CommandLine) (tree : FileTree) (home : Location) :
    c.resolve tree home = c.base tree home >>= fun b => GatewayConfig.check (c.override b) := by
  unfold resolve base
  cases c.config <;> rfl

theorem Given.value?_eq_none_iff (h : Given flags c) (o : CliOption) :
    c.value? o = none ↔ ∀ v, .option o v ∉ flags := by
  simp only [Option.eq_none_iff_forall_ne_some, ne_eq, h.value? o]

theorem replaces_iff (h : Given flags c) {o : CliOption} {old new : Text} :
    Replaces flags o old new ↔ new = (c.value? o).getD old := by
  unfold Replaces
  rw [← h.value?_eq_none_iff]
  simp only [← h.value? o]
  cases c.value? o <;> simp

theorem json_override : (c.override b).observability.format = .json ↔
    c.jsonLogs = true ∨ b.observability.format = .json := by
  cases hjson : c.jsonLogs <;> simp [override, hjson]

/-- What flags make of a configuration is one configuration. -/
theorem overrides_iff (h : Given flags c) : Overrides flags b d ↔ d = c.override b := by
  constructor
  · intro hd
    have hformat : d.observability.format = (c.override b).observability.format := by
      have hiff := hd.format.trans ((or_congr_left h.jsonLogs.symm).trans json_override.symm)
      cases hf : d.observability.format <;>
        cases hg : (c.override b).observability.format <;> simp_all
    obtain ⟨⟨socketPath⟩, service, ⟨logLevel, format⟩⟩ := d
    cases (replaces_iff h).1 hd.socketPath
    cases (replaces_iff h).1 hd.logLevel
    cases hd.service
    cases hformat
    rfl
  · rintro rfl
    exact {
      socketPath := (replaces_iff h).2 rfl
      logLevel := (replaces_iff h).2 rfl
      format := json_override.trans (or_congr_left h.jsonLogs)
      service := rfl }

/-- Only the file that is named can fail. -/
theorem base_eq_error_iff (h : Given flags c) : c.base tree home = .error e ↔
    ∃ path, .option .config path ∈ flags ∧ GatewayConfig.load tree home path = .error e := by
  simp only [← h.value? .config, value?]
  unfold base
  cases c.config <;> simp

theorem isBase_iff (h : Given flags c) : IsBase flags tree home b ↔ c.base tree home = .ok b := by
  have hiff : IsBase flags tree home b ↔
      (∀ path, c.config = some path → GatewayConfig.load tree home path = .ok b) ∧
        (c.config = none → b = {}) := by
    have hnone := h.value?_eq_none_iff .config
    have hsome := h.value? .config
    exact ⟨fun hb => ⟨fun path hp => hb.named path ((hsome path).1 hp),
        fun hno => hb.unnamed (hnone.1 hno)⟩,
      fun hb => ⟨fun path hp => hb.1 path ((hsome path).2 hp), fun hno => hb.2 (hnone.2 hno)⟩⟩
  rw [hiff, base]
  cases c.config <;> simp [eq_comm]

/-- Flags are laid over a configuration that is valid. -/
theorem isValid_of_base (h : c.base tree home = .ok b) : b.isValid = true := by
  unfold base at h
  split at h
  · exact GatewayConfig.isValid_of_load h
  · cases h
    exact GatewayConfig.isValid_defaults

/-- No flag spoils a configuration. -/
theorem isValid_override (h : Given flags c) (hb : b.isValid = true) :
    (c.override b).isValid = true := by
  refine GatewayConfig.isValid_of_service hb rfl ?_
  change (c.value? .socket).getD b.listener.socketPath ≠ []
  cases hsocket : c.value? .socket with
  | none => exact GatewayConfig.socketPath_ne_nil_of_isValid hb
  | some v => exact h.fits _ ((h.value? .socket v).1 hsocket) rfl

/-- The second check lets everything pass. -/
theorem resolve_eq_map (h : Given flags c) (tree : FileTree) (home : Location) :
    c.resolve tree home = c.override <$> c.base tree home := by
  rw [resolve_eq_bind]
  cases hb : c.base tree home with
  | error e => rfl
  | ok b => exact GatewayConfig.check_of_isValid (isValid_override h (isValid_of_base hb))

theorem resolve_eq_error_iff (h : Given flags c) : c.resolve tree home = .error e ↔
    ∃ path, .option .config path ∈ flags ∧ GatewayConfig.load tree home path = .error e := by
  rw [resolve_eq_map h, ← base_eq_error_iff h]
  cases c.base tree home <;> simp

theorem resolve_eq_ok_iff (h : Given flags c) : c.resolve tree home = .ok d ↔
    ∃ b, IsBase flags tree home b ∧ Overrides flags b d := by
  simp only [isBase_iff h, overrides_iff h]
  rw [resolve_eq_map h]
  cases c.base tree home <;> simp [eq_comm]

end Resolving

/-- How a command line with these flags resolves. -/
structure Resolves (flags : List Flag) (c : CommandLine) (tree : FileTree) (home : Location) :
    Prop where
  fails : ∀ e, c.resolve tree home = .error e ↔
    ∃ path, .option .config path ∈ flags ∧ GatewayConfig.load tree home path = .error e
  succeeds : ∀ d, c.resolve tree home = .ok d ↔
    ∃ b, IsBase flags tree home b ∧ Overrides flags b d
  /-- The check of what the flags make of a configuration never fails. -/
  passes : ∀ b, IsBase flags tree home b → (c.override b).isValid = true
  /-- The same flags in another order, or written in another way, are the same command line. -/
  unordered : ∀ flags' args', flags.Perm flags' → Writes flags' args' → parse args' = .ok c

/-- Arguments that are a command line write flags, and it resolves as they say. -/
theorem resolves_of_parse {args : List Text} {c : CommandLine} (h : parse args = .ok c)
    (tree : FileTree) (home : Location) :
    ∃ flags, Writes flags args ∧ Given flags c ∧ Resolves flags c tree home := by
  obtain ⟨flags, hwrites, hgiven⟩ := parse_eq_ok_iff.1 h
  refine ⟨flags, hwrites, hgiven, ?_⟩
  exact {
    fails := fun e => resolve_eq_error_iff hgiven
    succeeds := fun d => resolve_eq_ok_iff hgiven
    passes := fun b hb => isValid_override hgiven (isValid_of_base ((isBase_iff hgiven).1 hb))
    unordered := fun flags' args' hperm hwrites' =>
      parse_eq_ok_iff.2 ⟨flags', hwrites', hgiven.perm hperm⟩ }

/-- A file, JSON logs and a socket, each written in its own way, and the mark at the end. -/
theorem resolves_of_parse_mixed :
    parse ["-cgw.toml", "--json-logs", "--socket=/run/x.sock", "--"] =
      .ok { socket := some "/run/x.sock", config := some "gw.toml", jsonLogs := true } ∧
    ∃ flags, Writes flags ["-cgw.toml", "--json-logs", "--socket=/run/x.sock", "--"] ∧
      Given flags { socket := some "/run/x.sock", config := some "gw.toml", jsonLogs := true } ∧
      Resolves flags { socket := some "/run/x.sock", config := some "gw.toml", jsonLogs := true }
        ⟨[(["gw.toml"], .file (Text.utf8 "[observability]\nlog_level = \"warn\"\n"))]⟩ [] :=
  have h : parse ["-cgw.toml", "--json-logs", "--socket=/run/x.sock", "--"] =
      .ok { socket := some "/run/x.sock", config := some "gw.toml", jsonLogs := true } := by
    decide +kernel
  ⟨h, resolves_of_parse h _ []⟩

end CommandLine

end CredentialGateway
