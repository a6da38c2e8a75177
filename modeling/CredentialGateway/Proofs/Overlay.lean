import CredentialGateway.Config.Decode
import CredentialGateway.Proofs.DistinctKeys
import CredentialGateway.Proofs.TableTree

/-!
# Settings over the defaults

Any of the nine settings can be given, and each that is not keeps its default.  It does not matter
in which order the entries stand, what other entries stand among them, and whether a section is a
table or an array of its leading fields: what counts is which value is found under which key.

    no key twice → entries set the fields whose keys they have, and no other          (entries_ok)
    the entries give p → ofEntries … = .ok p.overlay                         (ofEntries_of_gives)
-/

namespace CredentialGateway

open Toml (Value Entries Tidy)

/-! ## Settings -/

/-- The sections of a configuration. -/
inductive Part
  | listener
  | service
  | observability
  deriving DecidableEq

def Part.name : Part → Text
  | listener => "listener"
  | service => "upstream"
  | observability => "observability"

/-- The keys of the section, in the order of its fields. -/
def Part.names : Part → List Text
  | listener => Decode.listenerNames
  | service => Decode.serviceNames
  | observability => Decode.observabilityNames

inductive ServiceField
  | baseUrl
  | pathStart
  | basePath
  | credentialEnv
  | contentType
  | useEnvProxy
  deriving DecidableEq

inductive ObservabilityField
  | logLevel
  | format
  deriving DecidableEq

def ServiceField.key : ServiceField → Text
  | baseUrl => "base_url"
  | pathStart => "prefix"
  | basePath => "base_path"
  | credentialEnv => "credential_env"
  | contentType => "content_type"
  | useEnvProxy => "use_env_proxy"

def ObservabilityField.key : ObservabilityField → Text
  | logLevel => "log_level"
  | format => "format"

/-- The fields of a configuration. -/
inductive Setting
  | socketPath
  | service (f : ServiceField)
  | observability (f : ObservabilityField)
  deriving DecidableEq

namespace Setting

def part : Setting → Part
  | socketPath => .listener
  | service _ => .service
  | observability _ => .observability

def key : Setting → Text
  | socketPath => "socket_path"
  | service f => f.key
  | observability f => f.key

/-- Where a document has the setting. -/
def path (s : Setting) : List Text := [s.part.name, s.key]

def all : List Setting :=
  [socketPath, service .baseUrl, service .pathStart, service .basePath, service .credentialEnv,
    service .contentType, service .useEnvProxy, observability .logLevel, observability .format]

theorem mem_all (s : Setting) : s ∈ all := by
  rcases s with _ | f | f
  · decide
  · cases f <;> decide
  · cases f <;> decide

theorem nodup_all : all.Nodup := by decide

/-- No two settings have one place. -/
theorem eq_of_path_isPrefix : ∀ s ∈ all, ∀ s' ∈ all, s.path <+: s'.path → s = s' := by decide

end Setting

/-- A choice of settings, and a content for each that is chosen. -/
structure PartialConfig where
  socketPath : Option Text := none
  baseUrl : Option Text := none
  pathStart : Option Text := none
  basePath : Option Text := none
  credentialEnv : Option Text := none
  contentType : Option Text := none
  useEnvProxy : Option Bool := none
  logLevel : Option Text := none
  format : Option LogFormat := none

def LogFormat.name : LogFormat → Text
  | pretty => "pretty"
  | json => "json"

namespace PartialConfig

/-- The value that a document gives for the setting. -/
def value? (p : PartialConfig) : Setting → Option Value
  | .socketPath => p.socketPath.map .string
  | .service .baseUrl => p.baseUrl.map .string
  | .service .pathStart => p.pathStart.map .string
  | .service .basePath => p.basePath.map .string
  | .service .credentialEnv => p.credentialEnv.map .string
  | .service .contentType => p.contentType.map .string
  | .service .useEnvProxy => p.useEnvProxy.map .boolean
  | .observability .logLevel => p.logLevel.map .string
  | .observability .format => p.format.map (.string ·.name)

/-- The defaults, with the chosen settings replaced. -/
def overlay (p : PartialConfig) : GatewayConfig where
  listener :=
    { socketPath := p.socketPath.getD ({} : ListenerConfig).socketPath }
  service :=
    { baseUrl := p.baseUrl.getD ({} : ServiceConfig).baseUrl
      pathStart := p.pathStart.getD ({} : ServiceConfig).pathStart
      basePath := p.basePath.getD ({} : ServiceConfig).basePath
      credentialEnv := p.credentialEnv.getD ({} : ServiceConfig).credentialEnv
      contentType := p.contentType.getD ({} : ServiceConfig).contentType
      useEnvProxy := p.useEnvProxy.getD ({} : ServiceConfig).useEnvProxy }
  observability :=
    { logLevel := p.logLevel.getD ({} : ObservabilityConfig).logLevel
      format := p.format.getD ({} : ObservabilityConfig).format }

end PartialConfig

/-- What stands under the keys of a section: the entries of a table, or the items of an array under
the leading keys. -/
def fields? (names : List Text) : Value → Option Entries
  | .table _ es => some es
  | .array _ items => some (names.zip items)
  | _ => none

/-- The value that the entries have for the setting. -/
def given? (es : Entries) (s : Setting) : Option Value := do
  let v ← es.lookup s.part.name
  let fs ← fields? s.part.names v
  fs.lookup s.key

/-- Every section is a table or an array, and has just the values that are chosen. -/
structure Gives (es : Entries) (p : PartialConfig) : Prop where
  parts : ∀ (part : Part) (v : Value), es.lookup part.name = some v →
    (fields? part.names v).isSome = true
  settings : ∀ s, given? es s = p.value? s

/-! ## Records that entries set -/

/-- A record, seen as fields that have keys: an entry puts into the field of its key what the value
decodes to, and an entry with another key changes nothing. -/
structure Layout {σ : Type} (set : Decode.SetField σ) where
  Field : Type
  decEq : DecidableEq Field
  key : Field → Text
  key_injective : Function.Injective key
  Content : Field → Type
  get : (f : Field) → σ → Content f
  put : (f : Field) → Content f → σ → σ
  get_put_self : ∀ f x s, get f (put f x s) = x
  get_put_of_ne : ∀ f g x s, g ≠ f → get g (put f x s) = get g s
  decode : (f : Field) → Decoder (Content f)
  set_key : ∀ s f v, set s (key f) v = (decode f v).map (put f · s)
  set_other : ∀ s name v, (∀ f, key f ≠ name) → set s name v = .ok s

theorem Decode.entries_cons {σ : Type} (set : SetField σ) (start : σ) (name : Text) (v : Value)
    (es : Entries) :
    entries set start ((name, v) :: es) = set start name v >>= fun s => entries set s es :=
  rfl

namespace Layout

variable {σ : Type} {set : Decode.SetField σ} (L : Layout set)

/-- Entries that have no key twice set the fields whose keys they have, and no other. -/
theorem entries_ok {es : Entries} (hkeys : (es.map (·.1)).Nodup)
    (content : (f : L.Field) → Option (L.Content f))
    (h : ∀ f, (es.lookup (L.key f)).map (L.decode f) = (content f).map .ok) (start : σ) :
    ∃ s, Decode.entries set start es = .ok s ∧
      ∀ f, L.get f s = (content f).getD (L.get f start) := by
  have := L.decEq
  induction es generalizing content start with
  | nil =>
    refine ⟨start, rfl, fun f => ?_⟩
    have hf : none = (content f).map Except.ok := h f
    cases hc : content f with
    | none => rfl
    | some x => rw [hc] at hf; cases hf
  | cons e es ih =>
    obtain ⟨name, v⟩ := e
    rw [List.map_cons, List.nodup_cons] at hkeys
    have hfresh := Toml.not_mem_keys_iff.1 hkeys.1
    by_cases hname : ∃ f, L.key f = name
    · obtain ⟨f, rfl⟩ := hname
      have hf := h f
      rw [Toml.lookup_entry, if_pos rfl] at hf
      cases hx : content f with
      | none => rw [hx] at hf; cases hf
      | some x =>
        rw [hx, Option.map_some, Option.map_some, Option.some.injEq] at hf
        -- behind the entry, nothing more is said about its field
        obtain ⟨s, hs, hget⟩ := ih hkeys.2 (Function.update content f none)
          (fun g => by
            by_cases hg : g = f
            · subst hg
              rw [hfresh, Function.update_self]
              rfl
            · rw [Function.update_of_ne hg, ← h g, Toml.lookup_entry,
                if_neg fun hk => hg (L.key_injective hk)]) (L.put f x start)
        refine ⟨s, ?_, fun g => ?_⟩
        · rw [Decode.entries_cons, L.set_key, hf]
          exact hs
        · rw [hget g]
          by_cases hg : g = f
          · subst hg
            rw [Function.update_self, hx, Option.getD_none, L.get_put_self, Option.getD_some]
          · rw [Function.update_of_ne hg, L.get_put_of_ne f g x start hg]
    · have hother : ∀ f, L.key f ≠ name := fun f hf => hname ⟨f, hf⟩
      obtain ⟨s, hs, hget⟩ := ih hkeys.2 content
        (fun g => by rw [← h g, Toml.lookup_entry, if_neg (hother g)]) start
      refine ⟨s, ?_, hget⟩
      rw [Decode.entries_cons, L.set_other start name v hother]
      exact hs

end Layout

/-! ## The sections -/

namespace ServiceField

/-- What the field holds. -/
abbrev Content : ServiceField → Type
  | useEnvProxy => Bool
  | _ => Text

def get : (f : ServiceField) → ServiceConfig → f.Content
  | baseUrl, c => c.baseUrl
  | pathStart, c => c.pathStart
  | basePath, c => c.basePath
  | credentialEnv, c => c.credentialEnv
  | contentType, c => c.contentType
  | useEnvProxy, c => c.useEnvProxy

def put : (f : ServiceField) → f.Content → ServiceConfig → ServiceConfig
  | baseUrl, t, c => { c with baseUrl := t }
  | pathStart, t, c => { c with pathStart := t }
  | basePath, t, c => { c with basePath := t }
  | credentialEnv, t, c => { c with credentialEnv := t }
  | contentType, t, c => { c with contentType := t }
  | useEnvProxy, b, c => { c with useEnvProxy := b }

def decode : (f : ServiceField) → Decoder f.Content
  | useEnvProxy => Decode.boolean
  | baseUrl | pathStart | basePath | credentialEnv | contentType => Decode.string .string

end ServiceField

namespace ObservabilityField

/-- What the field holds. -/
abbrev Content : ObservabilityField → Type
  | logLevel => Text
  | format => LogFormat

def get : (f : ObservabilityField) → ObservabilityConfig → f.Content
  | logLevel, c => c.logLevel
  | format, c => c.format

def put : (f : ObservabilityField) → f.Content → ObservabilityConfig → ObservabilityConfig
  | logLevel, t, c => { c with logLevel := t }
  | format, x, c => { c with format := x }

def decode : (f : ObservabilityField) → Decoder f.Content
  | logLevel => Decode.string .string
  | format => Decode.format

end ObservabilityField

section Layouts

open Decode

theorem setListener_key (c : ListenerConfig) (v : Value) :
    setListener c "socket_path" v =
      (string .path v).map fun t => { c with socketPath := t } := by
  rw [setListener, if_pos rfl]
  exact bind_pure_comp _ _

def listenerLayout : Layout setListener where
  Field := Unit
  decEq := inferInstance
  key _ := "socket_path"
  key_injective _ _ _ := rfl
  Content _ := Text
  get _ c := c.socketPath
  put _ t c := { c with socketPath := t }
  get_put_self _ _ _ := rfl
  get_put_of_ne _ _ _ _ h := absurd rfl h
  decode _ := string .path
  set_key c _ v := setListener_key c v
  set_other _ _ _ h := if_neg (h ()).symm

theorem setService_key (c : ServiceConfig) (f : ServiceField) (v : Value) :
    setService c f.key v = (f.decode v).map (f.put · c) := by
  cases f <;> rw [setService] <;> repeat rw [if_neg (by decide)]
  all_goals exact (if_pos rfl).trans (bind_pure_comp _ _)

theorem setService_other (c : ServiceConfig) {name : Text} (v : Value)
    (h : ∀ f : ServiceField, f.key ≠ name) : setService c name v = .ok c :=
  (if_neg (h .baseUrl).symm).trans <| (if_neg (h .pathStart).symm).trans <|
    (if_neg (h .basePath).symm).trans <| (if_neg (h .credentialEnv).symm).trans <|
      (if_neg (h .contentType).symm).trans <| if_neg (h .useEnvProxy).symm

def serviceLayout : Layout setService where
  Field := ServiceField
  decEq := inferInstance
  key := ServiceField.key
  key_injective f g h := by
    cases f <;> cases g <;> first | rfl | exact absurd h (by decide)
  Content := ServiceField.Content
  get := ServiceField.get
  put := ServiceField.put
  get_put_self f _ _ := by cases f <;> rfl
  get_put_of_ne f g _ _ h := by cases f <;> cases g <;> first | rfl | contradiction
  decode := ServiceField.decode
  set_key := setService_key
  set_other c _ v h := setService_other c v h

theorem setObservability_key (c : ObservabilityConfig) (f : ObservabilityField) (v : Value) :
    setObservability c f.key v = (f.decode v).map (f.put · c) := by
  cases f <;> rw [setObservability] <;> repeat rw [if_neg (by decide)]
  all_goals exact (if_pos rfl).trans (bind_pure_comp _ _)

theorem setObservability_other (c : ObservabilityConfig) {name : Text} (v : Value)
    (h : ∀ f : ObservabilityField, f.key ≠ name) : setObservability c name v = .ok c :=
  (if_neg (h .logLevel).symm).trans <| if_neg (h .format).symm

def observabilityLayout : Layout setObservability where
  Field := ObservabilityField
  decEq := inferInstance
  key := ObservabilityField.key
  key_injective f g h := by
    cases f <;> cases g <;> first | rfl | exact absurd h (by decide)
  Content := ObservabilityField.Content
  get := ObservabilityField.get
  put := ObservabilityField.put
  get_put_self f _ _ := by cases f <;> rfl
  get_put_of_ne f g _ _ h := by cases f <;> cases g <;> first | rfl | contradiction
  decode := ObservabilityField.decode
  set_key := setObservability_key
  set_other c _ v h := setObservability_other c v h

namespace Part

/-- What the section holds. -/
abbrev Content : Part → Type
  | listener => ListenerConfig
  | service => ServiceConfig
  | observability => ObservabilityConfig

def get : (part : Part) → GatewayConfig → part.Content
  | listener, c => c.listener
  | service, c => c.service
  | observability, c => c.observability

def put : (part : Part) → part.Content → GatewayConfig → GatewayConfig
  | listener, x, c => { c with listener := x }
  | service, x, c => { c with service := x }
  | observability, x, c => { c with observability := x }

def set : (part : Part) → SetField part.Content
  | listener => setListener
  | service => setService
  | observability => setObservability

def wanted : Part → Wanted
  | listener => .listener
  | service => .service
  | observability => .observability

def decode (part : Part) : Decoder part.Content :=
  Decode.section? part.set part.names part.wanted (part.get {})

end Part

theorem setSection_name (c : GatewayConfig) (part : Part) (v : Value) :
    setSection c part.name v = (part.decode v).map (part.put · c) := by
  cases part <;> rw [setSection] <;> repeat rw [if_neg (by decide)]
  all_goals exact (if_pos rfl).trans (bind_pure_comp _ _)

theorem setSection_other (c : GatewayConfig) {name : Text} (v : Value)
    (h : ∀ part : Part, part.name ≠ name) : setSection c name v = .ok c :=
  (if_neg (h .listener).symm).trans <| (if_neg (h .service).symm).trans <|
    if_neg (h .observability).symm

def configLayout : Layout setSection where
  Field := Part
  decEq := inferInstance
  key := Part.name
  key_injective f g h := by
    cases f <;> cases g <;> first | rfl | exact absurd h (by decide)
  Content := Part.Content
  get := Part.get
  put := Part.put
  get_put_self f _ _ := by cases f <;> rfl
  get_put_of_ne f g _ _ h := by cases f <;> cases g <;> first | rfl | contradiction
  decode := Part.decode
  set_key := setSection_name
  set_other c _ v h := setSection_other c v h

end Layouts

/-! ## What is chosen -/

namespace PartialConfig

variable (p : PartialConfig)

/-- What is chosen for the field. -/
def service : (f : ServiceField) → Option f.Content
  | .baseUrl => p.baseUrl
  | .pathStart => p.pathStart
  | .basePath => p.basePath
  | .credentialEnv => p.credentialEnv
  | .contentType => p.contentType
  | .useEnvProxy => p.useEnvProxy

/-- What is chosen for the field. -/
def observability : (f : ObservabilityField) → Option f.Content
  | .logLevel => p.logLevel
  | .format => p.format

theorem decode_service (f : ServiceField) :
    (p.value? (.service f)).map f.decode = (p.service f).map .ok := by
  cases f <;> exact Option.map_map ..

theorem decode_observability (f : ObservabilityField) :
    (p.value? (.observability f)).map f.decode = (p.observability f).map .ok := by
  cases f with
  | logLevel => exact Option.map_map ..
  | format =>
    change (p.format.map _).map Decode.format = p.format.map .ok
    rw [Option.map_map]
    exact congrArg (p.format.map ·) (funext fun x => by cases x <;> rfl)

section Sections

open Decode

variable {fs : Entries} (hkeys : (fs.map (·.1)).Nodup)

include hkeys

theorem listener_ok (h : fs.lookup (Setting.key .socketPath) = p.value? .socketPath) :
    entries setListener {} fs = .ok p.overlay.listener := by
  obtain ⟨s, hs, hget⟩ := listenerLayout.entries_ok hkeys (fun _ => p.socketPath)
    (fun _ => (congrArg _ h).trans (Option.map_map ..)) {}
  rw [hs]
  exact congrArg _ (congrArg ListenerConfig.mk (hget ()))

theorem service_ok (h : ∀ f : ServiceField, fs.lookup f.key = p.value? (.service f)) :
    entries setService {} fs = .ok p.overlay.service := by
  obtain ⟨s, hs, hget⟩ := serviceLayout.entries_ok hkeys p.service
    (fun f => (congrArg _ (h f)).trans (p.decode_service f)) {}
  rw [hs]
  cases s
  simp only [overlay, Except.ok.injEq, ServiceConfig.mk.injEq]
  exact ⟨hget .baseUrl, hget .pathStart, hget .basePath, hget .credentialEnv, hget .contentType,
    hget .useEnvProxy⟩

theorem observability_ok
    (h : ∀ f : ObservabilityField, fs.lookup f.key = p.value? (.observability f)) :
    entries setObservability {} fs = .ok p.overlay.observability := by
  obtain ⟨s, hs, hget⟩ := observabilityLayout.entries_ok hkeys p.observability
    (fun f => (congrArg _ (h f)).trans (p.decode_observability f)) {}
  rw [hs]
  cases s
  simp only [overlay, Except.ok.injEq, ObservabilityConfig.mk.injEq]
  exact ⟨hget .logLevel, hget .format⟩

/-- Whatever stands among the entries and in which order, a section is laid over the defaults. -/
theorem entries_part_ok (part : Part)
    (h : ∀ s : Setting, s.part = part → fs.lookup s.key = p.value? s) :
    entries part.set (part.get {}) fs = .ok (part.get p.overlay) := by
  cases part with
  | listener => exact p.listener_ok hkeys (h .socketPath rfl)
  | service => exact p.service_ok hkeys fun f => h (.service f) rfl
  | observability => exact p.observability_ok hkeys fun f => h (.observability f) rfl

end Sections

end PartialConfig

/-! ## Sections as tables and arrays -/

theorem section?_of_fields? {σ : Type} {set : Decode.SetField σ} {names : List Text}
    {wanted : Wanted} {start : σ} {v : Value} {fs : Entries} (h : fields? names v = some fs) :
    Decode.section? set names wanted start v = Decode.entries set start fs := by
  cases v <;> cases h <;> rfl

theorem map_fst_zip_isPrefix (names : List Text) (items : List Value) :
    (names.zip items).map (·.1) <+: names := by
  induction names generalizing items with
  | nil => exact List.prefix_rfl
  | cons name names ih =>
    cases items with
    | nil => exact List.nil_prefix
    | cons v items => exact List.cons_prefix_cons.2 ⟨rfl, ih items⟩

/-- No key comes twice in a section, for each item of an array has a key of its own. -/
theorem nodup_keys_of_fields? {names : List Text} (hnames : names.Nodup) {v : Value}
    {fs : Entries} (hv : v.IsTidy) (h : fields? names v = some fs) :
    (fs.map (·.1)).Nodup := by
  cases v with
  | table o es =>
    cases h
    exact (Value.isTidy_table_iff.1 hv).keys
  | array growing items =>
    cases h
    exact (map_fst_zip_isPrefix names items).sublist.nodup hnames
  | _ => cases h

theorem Part.nodup_names (part : Part) : part.names.Nodup := by
  cases part <;> decide

/-- The entries of a document that gives a choice of settings describe the defaults with these
settings replaced. -/
theorem ofEntries_of_gives {es : Entries} {p : PartialConfig} (hes : Tidy es) (h : Gives es p) :
    GatewayConfig.ofEntries es = .ok p.overlay := by
  have hdecode (part : Part) (v : Value) (hv : es.lookup part.name = some v) :
      part.decode v = .ok (part.get p.overlay) := by
    obtain ⟨fs, hfs⟩ := Option.isSome_iff_exists.1 (h.parts part v hv)
    rw [Part.decode, section?_of_fields? hfs]
    refine p.entries_part_ok (nodup_keys_of_fields? part.nodup_names (hes.lookup hv) hfs) part
      fun s hs => ?_
    subst hs
    rw [← h.settings s, given?, hv, Option.bind_eq_bind, Option.bind_some, hfs]
    rfl
  -- a section that is missing is laid over the defaults like one without entries
  have habsent (part : Part) (hv : es.lookup part.name = none) :
      part.get {} = part.get p.overlay := by
    have hnodup : (([] : Entries).map (·.1)).Nodup := List.nodup_nil
    have hempty := p.entries_part_ok hnodup part fun s hs => by
      subst hs
      rw [← h.settings s, given?, hv]
      rfl
    exact Except.ok.inj hempty
  obtain ⟨c, hc, hget⟩ := configLayout.entries_ok hes.keys
    (fun part : Part => (es.lookup part.name).map fun _ => part.get p.overlay)
    (fun part : Part => by
      change (es.lookup part.name).map part.decode = _
      cases hv : es.lookup part.name with
      | none => rfl
      | some v => exact congrArg some (hdecode part v hv)) {}
  have hall (part : Part) : part.get c = part.get p.overlay := by
    refine (hget part).trans ?_
    cases hv : es.lookup part.name with
    | none => exact habsent part hv
    | some v => rfl
  rw [GatewayConfig.ofEntries, hc]
  cases c
  simp only [Except.ok.injEq]
  exact congr (congr (congrArg GatewayConfig.mk (hall .listener)) (hall .service))
    (hall .observability)

end CredentialGateway
