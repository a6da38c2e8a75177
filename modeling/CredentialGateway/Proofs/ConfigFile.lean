import CredentialGateway.Config.Load
import CredentialGateway.Proofs.ChosenSettings
import CredentialGateway.Proofs.EffectiveConfig

/-!
# Configuration files

Loading a file lays the settings that it chooses over the defaults, in whatever way its lines are
written and whatever else they enter.  The configuration is what is loaded if nothing is wrong with
it; otherwise its problems are reported, and nothing else.

    the lines agree and choose p → loading gives p.overlay or its problems      (load_of_chooses)
    load … = .ok c → c.isValid                                             (loadsOverDefaults)
-/

namespace CredentialGateway

open Toml

namespace GatewayConfig

/-- The result is the configuration if nothing is wrong with it, and otherwise what is wrong. -/
structure IsOutcome (c : GatewayConfig) (r : Except ConfigError GatewayConfig) : Prop where
  valid : c.isValid = true → r = .ok c
  invalid : c.isValid = false → r = .error (.invalid c.problems)

theorem isOutcome_check (c : GatewayConfig) : IsOutcome c (check c) where
  valid := check_of_isValid
  invalid h := if_neg fun hp => by simp [isValid, hp] at h

section Load

variable {tree : FileTree} {home : Location} {path t : Text} {es : Entries} {p : PartialConfig}

theorem load_of_parse (hread : tree.readText home path = .ok t) (hparse : parse t = some es) :
    load tree home path = (ofEntries es).mapError .decode >>= check := by
  rw [load, hread]
  change (ofText t >>= check) = _
  rw [ofText, hparse]

theorem load_of_gives (hread : tree.readText home path = .ok t) (hparse : parse t = some es)
    (hgives : Gives es p) : IsOutcome p.overlay (load tree home path) := by
  rw [load_of_parse hread hparse, ofEntries_of_gives (tidy_of_parse hparse) hgives]
  exact isOutcome_check p.overlay

theorem load_of_chooses (hread : tree.readText home path = .ok t) {ss : List Statement}
    (hwrites : WritesDocument ss t) (hagree : Agree ss) (hchooses : Chooses ss p) :
    IsOutcome p.overlay (load tree home path) := by
  obtain ⟨es, hbuilds, hholds⟩ := exists_builds hagree fun k v => node_of_writesLines hwrites
  exact load_of_gives hread (parse_of_writes hwrites hbuilds) (gives_of_chooses hholds hchooses)

end Load

/-- A section is described by the array of its leading fields as it is by the table of them. -/
theorem ofEntries_array (before after : Entries) (part : Part) (growing : Bool) (o : Origin)
    (items : List Value) :
    ofEntries (before ++ (part.name, .array growing items) :: after) =
      ofEntries (before ++ (part.name, .table o (part.names.zip items)) :: after) := by
  have hsection (c : GatewayConfig) :
      Decode.setSection c part.name (.array growing items) =
        Decode.setSection c part.name (.table o (part.names.zip items)) := by
    rw [setSection_name, setSection_name]
    rfl
  unfold ofEntries Decode.entries
  rw [List.foldlM_append, List.foldlM_append]
  refine congrArg _ (funext fun c => ?_)
  rw [List.foldlM_cons, List.foldlM_cons]
  exact congrArg (· >>= _) (hsection c)

/-- What comes of the file that a path names. -/
structure LoadsOverDefaults (tree : FileTree) (home : Location) (path : Text) : Prop where
  /-- What the lines choose is laid over the defaults. -/
  written : ∀ t ss p, tree.readText home path = .ok t → WritesDocument ss t → Agree ss →
    Chooses ss p → IsOutcome p.overlay (load tree home path)
  /-- So is what the entries give that are read, in whatever way they are written. -/
  parsed : ∀ t es p, tree.readText home path = .ok t → parse t = some es → Gives es p →
    IsOutcome p.overlay (load tree home path)
  /-- An array of the leading fields of a section is loaded as the table of them is. -/
  array : ∀ t before after part growing o items other t',
    tree.readText home path = .ok t →
    parse t = some (before ++ (Part.name part, .array growing items) :: after) →
    tree.readText home other = .ok t' →
    parse t' = some (before ++ (part.name, .table o (part.names.zip items)) :: after) →
    load tree home path = load tree home other
  /-- Nothing that has a problem is loaded. -/
  valid : ∀ c, load tree home path = .ok c → c.isValid = true
  /-- Every choice of settings can be written. -/
  choice : ∀ p, ∃ ss t, WritesDocument ss t ∧ Agree ss ∧ Chooses ss p

theorem loadsOverDefaults (tree : FileTree) (home : Location) (path : Text) :
    LoadsOverDefaults tree home path where
  written _ _ _ hread hwrites := load_of_chooses hread hwrites
  parsed _ _ _ := load_of_gives
  array _ before after part growing o items _ _ hread hparse hread' hparse' := by
    rw [load_of_parse hread hparse, load_of_parse hread' hparse',
      ofEntries_array before after part growing o items]
  valid _ := isValid_of_load
  choice := PartialConfig.exists_document

/-! ## A file with settings in several ways -/

def mixedText : Text :=
  "observability=['warn',\"js\\u006Fn\"]\nupstream=\x7bcredential_env=\"KEY\",x=true\x7d\n" ++
    "[listener]\ny.z=false # no\nsocket_path='/s'\n[[more]]\nx=true\n[[more]]\nx=false\n"

/-- What the text says. -/
def mixedLines : List Statement :=
  [.entry ⟨[], "observability"⟩ (.array false [.string "warn", .string "json"]),
    .entry ⟨[], "upstream"⟩
      (.table .closed [("credential_env", .string "KEY"), ("x", .boolean true)]),
    .header false ⟨[], "listener"⟩,
    .entry ⟨["y"], "z"⟩ (.boolean false),
    .entry ⟨[], "socket_path"⟩ (.string "/s"),
    .header true ⟨[], "more"⟩,
    .entry ⟨[], "x"⟩ (.boolean true),
    .header true ⟨[], "more"⟩,
    .entry ⟨[], "x"⟩ (.boolean false)]

/-- What the lines choose. -/
def mixed : PartialConfig where
  socketPath := some "/s"
  credentialEnv := some "KEY"
  logLevel := some "warn"
  format := some .json

theorem writesDocument_mixed : WritesDocument mixedLines mixedText := by
  have hgap : Gap [] := .blanks isBlank_nil
  have hbare {s : Text} (hs : s ≠ []) (h : s.all isBareChar = true) : WritesKey ⟨[], s⟩ s :=
    ⟨by simpa [Key.parts] using WritesParts.last isBlank_nil (.bare hs h) isBlank_nil,
      by simp [Key.parts, deepest]⟩
  have hplain {c : Char} (h : (Quote.isPlain c && c != '"' && c != '\\') = true) :
      Escaped c [c] := by
    simp only [Bool.and_eq_true, bne_iff_ne] at h
    exact .plain h.1.1 h.1.2 h.2
  have hescape (h : Quote.scalar? "006F" = some 'o') : Escaped 'o' "\\u006F" := .short h
  have hwarn : WritesScalar (.string "warn") "'warn'" :=
    .string (.line (.literal (.cons (.mk rfl (by decide)) (.cons (.mk rfl (by decide))
      (.cons (.mk rfl (by decide)) (.cons (.mk rfl (by decide)) .nil))))))
  have hjson : WritesScalar (.string "json") "\"js\\u006Fn\"" :=
    .string (.line (.basic (.cons (hplain rfl) (.cons (hplain rfl)
      (.cons (hescape (by decide)) (.cons (hplain rfl) .nil))))))
  have hkey : WritesScalar (.string "KEY") "\"KEY\"" :=
    .string (.line (.basic (.cons (hplain rfl) (.cons (hplain rfl) (.cons (hplain rfl) .nil)))))
  have hsocket : WritesScalar (.string "/s") "'/s'" :=
    .string (.line (.literal (.cons (.mk rfl (by decide)) (.cons (.mk rfl (by decide)) .nil))))
  have hlogs : Writes deepest (.array false [.string "warn", .string "json"])
      "['warn',\"js\\u006Fn\"]" :=
    .inr (.array (.cons hgap (writes_of_scalar hwarn 78) hgap
      (.last hgap (writes_of_scalar hjson 78) hgap)))
  have hx : WritesKey ⟨[], "x"⟩ "x" := hbare (by decide) (by decide)
  have hservice : Writes deepest
      (.table .closed [("credential_env", .string "KEY"), ("x", .boolean true)])
      "\x7bcredential_env=\"KEY\",x=true\x7d" :=
    .inr (.table (.cons (.mk (hbare (s := "credential_env") (by decide) (by decide)) isBlank_nil
      (writes_of_scalar hkey 78)) isBlank_nil (.last (.mk hx isBlank_nil
        (writes_of_scalar .yes 78)) isBlank_nil)) ⟨[], rfl⟩)
  have hz : WritesKey ⟨["y"], "z"⟩ "y.z" :=
    ⟨.cons isBlank_nil (.bare (s := "y") (by decide) (by decide)) isBlank_nil
      (hbare (s := "z") (by decide) (by decide)).parts, by decide⟩
  have hmore : WritesKey ⟨[], "more"⟩ "more" := hbare (by decide) (by decide)
  have hline {ss : List Statement} {t : Text} (h : WritesLines true ss t) :
      WritesLines false ss ('\n' :: t) :=
    .next isBlank_nil (.inl rfl) (.inl rfl) h
  have hlines := WritesLines.entry
    (.mk (hbare (s := "observability") (by decide) (by decide)) isBlank_nil hlogs) <| hline <|
    .entry (.mk (hbare (s := "upstream") (by decide) (by decide)) isBlank_nil hservice) <| hline <|
    .table isBlank_nil (hbare (s := "listener") (by decide) (by decide)) <| hline <|
    .entry (.mk hz isBlank_nil (writes_of_scalar .no deepest)) <|
    .next (b := " ") (by decide) (.inr ⟨" no", rfl, by decide⟩) (.inl rfl) <|
    .entry (.mk (hbare (s := "socket_path") (by decide) (by decide)) isBlank_nil
      (writes_of_scalar hsocket deepest)) <| hline <|
    .array isBlank_nil hmore <| hline <|
    .entry (.mk hx isBlank_nil (writes_of_scalar .yes deepest)) <| hline <|
    .array isBlank_nil hmore <| hline <|
    .entry (.mk hx isBlank_nil (writes_of_scalar .no deepest)) <| hline <|
    .done isBlank_nil (.inl rfl)
  rw [WritesDocument, if_neg (by decide +kernel)]
  refine (congrArg (WritesLines true mixedLines) ?_).mp hlines
  decide +kernel

theorem chooses_mixed : Chooses mixedLines mixed where
  tables part := by cases part <;> decide
  parts part v h := by
    cases part with
    | listener => cases h
    | service => rw [← Option.some.inj h]; rfl
    | observability => rw [← Option.some.inj h]; rfl
  settings s := by
    rcases s with _ | f | f
    · rfl
    · cases f <;> rfl
    · cases f <;> rfl
  others s h := by
    rcases s with _ | f | f
    · cases h
    · cases f <;> decide
    · cases f <;> cases h

theorem isValid_overlay_mixed : mixed.overlay.isValid = true :=
  isValid_iff.2 ⟨rfl, baseUrlCauses_eq_nil_iff.2 ⟨_, Url.parse_openai, .inr rfl, rfl⟩,
    by decide, by cbv, by cbv, by cbv⟩

/-- An array, a table between braces and a header, with an escape, and with entries and an array of
tables that are unknown. -/
theorem loadsOverDefaults_mixed :
    load ⟨[(["gw.toml"], .file mixedText.utf8)]⟩ [] "gw.toml" = .ok mixed.overlay :=
  have hread (content : Bytes) :
      FileTree.read ⟨[(["gw.toml"], .file content)]⟩ [] "gw.toml" = .ok content := by
    cbv
  ((loadsOverDefaults _ [] "gw.toml").written mixedText mixedLines mixed
    (FileTree.readText_of_read (hread _)) writesDocument_mixed (by decide)
    chooses_mixed).valid isValid_overlay_mixed

end GatewayConfig

end CredentialGateway
