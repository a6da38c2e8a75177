import CredentialGateway.Proofs.EffectiveConfig

/-!
# Problems, field by field

What is wrong with a configuration is what is wrong with each of its fields, in the order in which
the fields are checked.  No check looks at a second field and none stops the next one, so a field
brings the same problems among the defaults as among the fields that it came with, and once every
reported field is back at its default nothing is left to report.

    problems c = the problems of each checked field, in order                    (problems_eq)
    the reported fields at their defaults → valid                                (isValid_reset)
    one field among the defaults → the problems of that field          (problems_put_defaults)
-/

namespace CredentialGateway

/-! ## Fields -/

namespace ConfigField

/-- The fields in the order in which they are checked. -/
def checked : List ConfigField :=
  [socketPath, baseUrl, pathStart, basePath, credentialEnv, contentType]

/-- What a configuration holds in the field. -/
def value (c : GatewayConfig) : ConfigField → Text
  | socketPath => c.listener.socketPath
  | baseUrl => c.service.baseUrl
  | pathStart => c.service.pathStart
  | basePath => c.service.basePath
  | credentialEnv => c.service.credentialEnv
  | contentType => c.service.contentType

/-- The configuration with this text in the field. -/
def put (t : Text) (c : GatewayConfig) : ConfigField → GatewayConfig
  | socketPath => { c with listener := { c.listener with socketPath := t } }
  | baseUrl => { c with service := { c.service with baseUrl := t } }
  | pathStart => { c with service := { c.service with pathStart := t } }
  | basePath => { c with service := { c.service with basePath := t } }
  | credentialEnv => { c with service := { c.service with credentialEnv := t } }
  | contentType => { c with service := { c.service with contentType := t } }

/-- What is wrong with a text in the field. -/
def causes (t : Text) : ConfigField → List ProblemCause
  | socketPath => GatewayConfig.socketPathCauses t
  | baseUrl => GatewayConfig.baseUrlCauses t
  | pathStart => GatewayConfig.pathStartCauses t
  | basePath => GatewayConfig.basePathCauses t
  | credentialEnv => GatewayConfig.credentialEnvCauses t
  | contentType => GatewayConfig.contentTypeCauses t

theorem mem_checked (f : ConfigField) : f ∈ checked := by
  cases f <;> decide

/-- What only one field contributes to. -/
theorem flatMap_checked {α : Type} (f : ConfigField) (l : List α) :
    (checked.flatMap fun g => if g = f then l else []) = l := by
  cases f <;> simp [checked]

theorem value_put (f g : ConfigField) (t : Text) (c : GatewayConfig) :
    g.value (f.put t c) = if g = f then t else g.value c := by
  cases f <;> cases g <;> rfl

/-- What is not checked stays. -/
theorem unchecked_put (f : ConfigField) (t : Text) (c : GatewayConfig) :
    (f.put t c).service.useEnvProxy = c.service.useEnvProxy ∧
      (f.put t c).observability = c.observability := by
  cases f <;> exact ⟨rfl, rfl⟩

end ConfigField

/-! ## Problems -/

namespace GatewayConfig

/-- What is wrong with one field. -/
def problemsOf (c : GatewayConfig) (f : ConfigField) : List Problem :=
  (f.causes (f.value c)).map (⟨f, ·⟩)

theorem problems_eq (c : GatewayConfig) :
    c.problems = ConfigField.checked.flatMap c.problemsOf := by
  simp only [ConfigField.checked, List.flatMap_cons, List.flatMap_nil, List.append_nil, problems,
    problemsOf, List.append_assoc]
  rfl

theorem filter_problemsOf (c : GatewayConfig) (f g : ConfigField) :
    (c.problemsOf g).filter (·.field = f) = if g = f then c.problemsOf f else [] := by
  unfold problemsOf
  split
  · rename_i h
    rw [h, List.filter_eq_self]
    simp
  · rename_i h
    rw [List.filter_eq_nil_iff]
    simp [h]

/-- Each field is checked once, and its problems are those of its own text. -/
theorem filter_problems (c : GatewayConfig) (f : ConfigField) :
    c.problems.filter (·.field = f) = c.problemsOf f := by
  rw [problems_eq, List.filter_flatMap]
  simp only [filter_problemsOf]
  exact ConfigField.flatMap_checked f _

theorem mem_problems_iff {c : GatewayConfig} {p : Problem} :
    p ∈ c.problems ↔ p.cause ∈ p.field.causes (p.field.value c) := by
  have h : p ∈ c.problems.filter (·.field = p.field) ↔ p ∈ c.problems := by simp
  rw [← h, filter_problems, problemsOf, List.mem_map]
  constructor
  · rintro ⟨cause, hcause, hp⟩
    rw [← hp]
    exact hcause
  · exact fun hcause => ⟨p.cause, hcause, rfl⟩

theorem isValid_iff_problemsOf {c : GatewayConfig} :
    c.isValid = true ↔ ∀ f, c.problemsOf f = [] := by
  rw [isValid, List.isEmpty_iff, problems_eq, List.flatMap_eq_nil_iff]
  exact ⟨fun h f => h f f.mem_checked, fun h f _ => h f⟩

/-- The problems of a field depend on its text only. -/
theorem problemsOf_congr {c d : GatewayConfig} {f : ConfigField} (h : f.value c = f.value d) :
    c.problemsOf f = d.problemsOf f := by
  rw [problemsOf, problemsOf, h]

theorem mem_fields_iff {c : GatewayConfig} {f : ConfigField} :
    f ∈ c.problems.map (·.field) ↔ c.problemsOf f ≠ [] := by
  rw [← filter_problems, ne_eq, List.filter_eq_nil_iff, List.mem_map]
  simp

/-! ## Defaults -/

def defaults : GatewayConfig := {}

/-- The configuration with these fields at their defaults. -/
def reset (fields : List ConfigField) (c : GatewayConfig) : GatewayConfig :=
  fields.foldl (fun c f => f.put (f.value defaults) c) c

theorem value_reset (fields : List ConfigField) (c : GatewayConfig) (f : ConfigField) :
    f.value (c.reset fields) = if f ∈ fields then f.value defaults else f.value c := by
  induction fields generalizing c with
  | nil => simp [reset]
  | cons g fields ih =>
    change f.value (reset fields (g.put (g.value defaults) c)) = _
    rw [ih, ConfigField.value_put]
    by_cases hg : f = g
    · simp [hg]
    · simp [hg]

theorem unchecked_reset (fields : List ConfigField) (c : GatewayConfig) :
    (c.reset fields).service.useEnvProxy = c.service.useEnvProxy ∧
      (c.reset fields).observability = c.observability := by
  induction fields generalizing c with
  | nil => exact ⟨rfl, rfl⟩
  | cons g fields ih =>
    obtain ⟨hproxy, hlogs⟩ := ih (g.put (g.value defaults) c)
    obtain ⟨hproxy', hlogs'⟩ := g.unchecked_put (g.value defaults) c
    exact ⟨hproxy.trans hproxy', hlogs.trans hlogs'⟩

theorem problemsOf_defaults (f : ConfigField) : defaults.problemsOf f = [] :=
  isValid_iff_problemsOf.1 isValid_defaults f

/-- Nothing is wrong with fields that are not reported, nor with defaults. -/
theorem isValid_reset (c : GatewayConfig) :
    (c.reset (c.problems.map (·.field))).isValid = true := by
  rw [isValid_iff_problemsOf]
  intro f
  by_cases hf : f ∈ c.problems.map (·.field)
  · rw [problemsOf_congr (d := defaults) (by rw [value_reset, if_pos hf]), problemsOf_defaults]
  · rw [problemsOf_congr (d := c) (by rw [value_reset, if_neg hf])]
    exact not_not.1 (mt mem_fields_iff.2 hf)

/-- Among defaults a field brings all its problems, and no other problem arises. -/
theorem problems_put_defaults (c : GatewayConfig) (f : ConfigField) :
    (f.put (f.value c) defaults).problems = c.problemsOf f := by
  have hothers (g : ConfigField) : (f.put (f.value c) defaults).problemsOf g =
      if g = f then c.problemsOf f else [] := by
    split
    · rename_i h
      rw [h, problemsOf_congr (d := c) (by rw [ConfigField.value_put, if_pos rfl])]
    · rename_i h
      rw [problemsOf_congr (d := defaults) (by rw [ConfigField.value_put, if_neg h]),
        problemsOf_defaults]
  rw [problems_eq, funext hothers]
  exact ConfigField.flatMap_checked f _

/-! ## Every problem and no other -/

/-- The report on a configuration names what is wrong with it, and nothing else. -/
structure ReportsExactly (c : GatewayConfig) : Prop where
  /-- Once the reported fields, and no others, are at their defaults, nothing is wrong. -/
  complete : (c.reset (c.problems.map (·.field))).isValid = true
  /-- A field that is reported is rejected by itself, with the same problems, and brings no problem
  to any other field. -/
  sound : ∀ f ∈ c.problems.map (·.field), (f.put (f.value c) defaults).isValid = false ∧
    (f.put (f.value c) defaults).problems = c.problems.filter (·.field = f)
  /-- The problems of one field stand together, and the fields stand in the order of the checks. -/
  ordered : c.problems = ConfigField.checked.flatMap fun f => c.problems.filter (·.field = f)

/-- Every configuration is reported on exactly; and resetting fields touches these fields only. -/
theorem reportsExactly (c : GatewayConfig) : c.ReportsExactly ∧
    ∀ fields f, f.value (c.reset fields) = (if f ∈ fields then f.value defaults else f.value c) ∧
      (c.reset fields).service.useEnvProxy = c.service.useEnvProxy ∧
      (c.reset fields).observability = c.observability := by
  refine ⟨⟨c.isValid_reset, fun f hf => ⟨?_, ?_⟩, ?_⟩,
    fun fields f => ⟨c.value_reset fields f, c.unchecked_reset fields⟩⟩
  · rw [isValid, problems_put_defaults, List.isEmpty_eq_false_iff]
    exact mem_fields_iff.1 hf
  · rw [problems_put_defaults, filter_problems]
  · simp only [filter_problems]
    exact c.problems_eq

/-- Two problems of one field, the second not hidden by the first. -/
example : GatewayConfig.problems { service := { baseUrl := "mailto:a", pathStart := "/" } } =
    [⟨.baseUrl, .scheme "mailto"⟩, ⟨.baseUrl, .hostMissing⟩, ⟨.pathStart, .noSegment⟩] := by
  cbv

end GatewayConfig

end CredentialGateway
