import CredentialGateway.Proofs.Overlay
import CredentialGateway.Proofs.WrittenLines

/-!
# The settings that a document chooses

A setting is chosen by the value that a line enters under its path, in whatever way the line and the
header above it share the path between them, or by the value of its section, where a line enters the
section as a whole.  The tree that the lines build gives what they choose, and every choice can be
written.

    Holds (marks ss) es, Chooses ss p → Gives es p                        (gives_of_chooses)
    every p is chosen by lines that agree and that a text writes            (exists_document)
-/

namespace CredentialGateway

open Toml

/-! ## What lines choose -/

/-- The value that the line enters under the path. -/
def Toml.Mark.valueAt (path : List Text) : Mark → Option Value
  | .value home k v => if home ++ k.parts = path then some v else none
  | .header .. => none

/-- The value that the lines enter under the path. -/
def entered? (ss : List Statement) (path : List Text) : Option Value :=
  (marks ss).findSome? (·.valueAt path)

/-- The value that the lines have for the setting: in the value of its section, where the section is
entered as a whole, and otherwise under its own path. -/
def chosen? (ss : List Statement) (s : Setting) : Option Value :=
  match entered? ss [s.part.name] with
  | some w => (fields? s.part.names w).bind (·.lookup s.key)
  | none => entered? ss s.path

/-- The lines choose these settings, and are not about the others; no section is an array of
tables. -/
structure Chooses (ss : List Statement) (p : PartialConfig) : Prop where
  tables : ∀ part : Part, [part.name] ∉ (marks ss).filterMap Mark.array?
  parts : ∀ (part : Part) (v : Value), entered? ss [part.name] = some v →
    (fields? part.names v).isSome = true
  settings : ∀ s, chosen? ss s = p.value? s
  others : ∀ s, p.value? s = none → ∀ m ∈ marks ss, ¬ s.path <+: m.path

theorem exists_mark_of_entered? {ss : List Statement} {path : List Text} {v : Value}
    (h : entered? ss path = some v) :
    ∃ home k, .value home k v ∈ marks ss ∧ home ++ k.parts = path := by
  obtain ⟨m, hm, hv⟩ := List.exists_of_findSome?_eq_some h
  cases m with
  | header => cases hv
  | value home k w =>
    rw [Mark.valueAt] at hv
    split at hv
    · rename_i hpath
      cases hv
      exact ⟨home, k, hm, hpath⟩
    · cases hv

section Choice

variable {ss : List Statement} {es : Entries} {p : PartialConfig} {path : List Text}
  {name : Text} {v : Value}

/-- The values that lines enter are those that are complete in the tree. -/
theorem entered?_eq_some_iff (h : Holds (marks ss) es) :
    entered? ss path = some v ↔ node? es path = some (.complete v) := by
  have hnode {v : Value} (hv : entered? ss path = some v) :
      node? es path = some (.complete v) := by
    obtain ⟨home, k, hm, rfl⟩ := exists_mark_of_entered? hv
    exact h.place _ hm
  refine ⟨hnode, fun hv => ?_⟩
  cases hw : entered? ss path with
  | some w =>
    rw [hnode hw] at hv
    cases hv
    rfl
  | none =>
    generalize hn : Node.complete v = n at hv
    cases h.cause _ _ hv with
    | @place m hm =>
      have hnone := List.findSome?_eq_none_iff.1 hw _ hm
      cases m with
      | value => simp [Mark.valueAt, Mark.path] at hnone
      | header array => cases array <;> cases hn
    | _ => cases hn

theorem lookup_of_node? (hv : node? es [name] = some (.complete v)) : es.lookup name = some v := by
  rw [node?_singleton] at hv
  obtain ⟨w, hw, hn⟩ := Option.map_eq_some_iff.1 hv
  rw [hw, (Value.eq_of_node hn).1]

/-- A section that lines enter into is a table with what they enter. -/
theorem given?_of_table {s : Setting} {o : Origin}
    (h : node? es [s.part.name] = some (.table o)) :
    given? es s = (under s.part.name es).lookup s.key := by
  rw [node?_singleton] at h
  obtain ⟨w, hw, hn⟩ := Option.map_eq_some_iff.1 h
  obtain ⟨ho, hw'⟩ := Value.eq_table_of_node hn
  rw [given?, hw, hw', under_of_lookup (hw.trans (congrArg some hw')), Value.inside_of_open ho]
  rfl

/-- A section is no array of tables. -/
theorem node?_ne_items (h : Holds (marks ss) es) (hp : Chooses ss p) (part : Part) :
    node? es [part.name] ≠ some .items := by
  intro hn
  generalize hpath : [part.name] = path, hitems : Node.items = n at hn
  cases h.cause _ _ hn with
  | @place m hm =>
    cases m with
    | value => cases hitems
    | header array path =>
      cases array with
      | false => cases hitems
      | true => exact hp.tables part (List.mem_filterMap.2 ⟨_, hm, by rw [hpath]; rfl⟩)
  | _ => cases hitems

/-- The tree that holds what the lines say gives what they choose. -/
theorem gives_of_chooses (h : Holds (marks ss) es) (hp : Chooses ss p) : Gives es p where
  parts part v hv := by
    cases hn : v.node with
    | table o =>
      rw [(Value.eq_table_of_node hn).2]
      rfl
    | items =>
      refine absurd ?_ (node?_ne_items h hp part)
      rw [node?_singleton, hv, Option.map_some, hn]
    | complete w =>
      refine hp.parts part v ((entered?_eq_some_iff h).2 ?_)
      rw [node?_singleton, hv, Option.map_some, hn, (Value.eq_of_node hn).1]
  settings s := by
    have hchosen := hp.settings s
    unfold chosen? at hchosen
    cases hwhole : entered? ss [s.part.name] with
    | some w =>
      have hw := lookup_of_node? ((entered?_eq_some_iff h).1 hwhole)
      rw [hwhole] at hchosen
      rw [← hchosen, given?, hw]
      rfl
    | none =>
      rw [hwhole] at hchosen
      cases hs : p.value? s with
      | some v =>
        have hv := (entered?_eq_some_iff h).1 (hchosen.trans hs)
        obtain ⟨n, hopen, hn⟩ := exists_open_of_node?_append [s.part.name] (by simp)
          (List.cons_ne_nil s.key []) hv
        rw [Setting.path, node?_cons (by simp)] at hv
        cases n with
        | complete w => exact hopen.elim
        | table o => rw [given?_of_table hn, lookup_of_node? hv]
        | items => exact absurd hn (node?_ne_items h hp s.part)
      | none =>
        cases hn : node? es [s.part.name] with
        | none =>
          rw [given?, lookup_eq_none_of_node? hn]
          rfl
        | some n =>
          cases n with
          | complete w =>
            rw [(entered?_eq_some_iff h).2 hn] at hwhole
            cases hwhole
          | items => exact absurd hn (node?_ne_items h hp s.part)
          | table o =>
            rw [given?_of_table hn]
            refine lookup_eq_none_of_node? (Option.eq_none_iff_forall_not_mem.2 fun n hk => ?_)
            rw [← node?_cons (by simp)] at hk
            obtain ⟨m, hm, hle⟩ := (h.cause _ _ hk).exists_mark
            exact hp.others s hs m hm hle

end Choice

/-! ## Every choice can be written -/

theorem marksFrom_entries (ms : List Mark) (home : List Text) (kvs : List (Key × Value)) :
    marksFrom ms home (kvs.map fun kv => .entry kv.1 kv.2) =
      ms ++ kvs.map fun kv => .value home kv.1 kv.2 := by
  induction kvs generalizing ms with
  | nil => simp [marksFrom]
  | cons kv kvs ih =>
    rw [List.map_cons, marksFrom, said_of_array? rfl]
    exact (ih _).trans (by simp [Statement.mark])

/-- Entries below one header agree if any two of them do. -/
theorem agreeFrom_entries (ms : List Mark) {home : List Text} {kvs : List (Key × Value)}
    (h : (ms ++ kvs.map fun kv => Mark.value home kv.1 kv.2).Pairwise Mark.Admits) :
    AgreeFrom ms home (kvs.map fun kv => .entry kv.1 kv.2) := by
  induction kvs generalizing ms with
  | nil => trivial
  | cons kv kvs ih =>
    rw [List.map_cons, List.append_cons] at h
    have hadmits := (List.pairwise_append.1 (List.pairwise_append.1 h).1).2.2
    refine ⟨fun m hm => hadmits m hm _ (List.mem_singleton_self _), trivial, ?_⟩
    rw [said_of_array? rfl]
    exact ih _ h

theorem isBareChar_of_path : ∀ s ∈ Setting.all, ∀ t ∈ s.path,
    t ≠ [] ∧ t.all isBareChar = true := by
  decide

/-- The key of a setting needs no quotes. -/
theorem exists_writesKey (s : Setting) : ∃ t, WritesKey ⟨[s.part.name], s.key⟩ t := by
  obtain ⟨hpart, hpart'⟩ := isBareChar_of_path s s.mem_all s.part.name (by simp [Setting.path])
  obtain ⟨hkey, hkey'⟩ := isBareChar_of_path s s.mem_all s.key (by simp [Setting.path])
  exact ⟨_, .cons isBlank_nil (.bare hpart hpart') isBlank_nil
    (.last isBlank_nil (.bare hkey hkey') isBlank_nil), by simp [Key.parts, deepest]⟩

/-- Entries that can be written can be written on lines of their own. -/
theorem exists_writesDocument (kvs : List (Key × Value))
    (h : ∀ kv ∈ kvs, ∃ t, WritesEntry (Writes deepest) kv.1 kv.2 t) :
    ∃ t, WritesDocument (kvs.map fun kv => .entry kv.1 kv.2) t := by
  have hlines : ∃ t, WritesLines true (kvs.map fun kv => .entry kv.1 kv.2) t := by
    induction kvs with
    | nil => exact ⟨_, .done isBlank_nil (.inl rfl)⟩
    | cons kv kvs ih =>
      obtain ⟨t, ht⟩ := h kv (by simp)
      obtain ⟨r, hr⟩ := ih fun kv hkv => h kv (List.mem_cons_of_mem _ hkv)
      exact ⟨_, .entry ht (.next isBlank_nil (.inl rfl) (.inl rfl) hr)⟩
  -- an empty line in front, so that no byte order mark starts the text
  obtain ⟨t, ht⟩ := hlines
  exact ⟨'\n' :: t, .next isBlank_nil (.inl rfl) (.inl rfl) ht⟩

namespace PartialConfig

variable (p : PartialConfig)

/-- An entry for each chosen setting, under a dotted key. -/
def entries : List (Key × Value) :=
  Setting.all.filterMap fun s => (p.value? s).map fun v => (⟨[s.part.name], s.key⟩, v)

/-- The entries as lines of a document. -/
def statements : List Statement := p.entries.map fun kv => .entry kv.1 kv.2

theorem mem_marks_statements {m : Mark} :
    m ∈ marks p.statements ↔
      ∃ s v, p.value? s = some v ∧ m = .value [] ⟨[s.part.name], s.key⟩ v := by
  rw [statements, marks, marksFrom_entries, List.nil_append]
  simp only [entries, List.mem_map, List.mem_filterMap, Option.map_eq_some_iff]
  constructor
  · rintro ⟨kv, ⟨s, -, v, hv, rfl⟩, rfl⟩
    exact ⟨s, v, hv, rfl⟩
  · rintro ⟨s, v, hv, rfl⟩
    exact ⟨_, ⟨s, s.mem_all, v, hv, rfl⟩, rfl⟩

theorem agree_statements : Agree p.statements := by
  refine agreeFrom_entries [] ?_
  rw [List.nil_append, List.pairwise_map, entries, List.pairwise_filterMap]
  refine Setting.nodup_all.imp_of_mem fun {s s'} hs hs' hne kv hkv kv' hkv' => ?_
  obtain ⟨v, -, rfl⟩ := Option.map_eq_some_iff.1 hkv
  obtain ⟨v', -, rfl⟩ := Option.map_eq_some_iff.1 hkv'
  exact ⟨fun h => hne (Setting.eq_of_path_isPrefix s hs s' hs' h),
    fun h => hne (Setting.eq_of_path_isPrefix s' hs' s hs h).symm⟩

theorem entered?_statements_iff {s : Setting} {v : Value} :
    entered? p.statements s.path = some v ↔ p.value? s = some v := by
  have hvalue {v : Value} (h : entered? p.statements s.path = some v) : p.value? s = some v := by
    obtain ⟨home, k, hm, hpath⟩ := exists_mark_of_entered? h
    obtain ⟨s', v', hv', heq⟩ := p.mem_marks_statements.1 hm
    cases heq
    rwa [Setting.eq_of_path_isPrefix s s.mem_all s' s'.mem_all (hpath ▸ List.prefix_rfl)]
  refine ⟨hvalue, fun h => ?_⟩
  cases hw : entered? p.statements s.path with
  | some w => rw [← hvalue hw, h]
  | none =>
    have hnone := List.findSome?_eq_none_iff.1 hw _ (p.mem_marks_statements.2 ⟨s, v, h, rfl⟩)
    simp [Mark.valueAt, Key.parts, Setting.path] at hnone

theorem chooses_statements : Chooses p.statements p := by
  -- no section is entered as a whole
  have hparts (part : Part) : entered? p.statements [part.name] = none := by
    refine Option.eq_none_iff_forall_not_mem.2 fun v h => ?_
    obtain ⟨home, k, hm, hpath⟩ := exists_mark_of_entered? h
    obtain ⟨s, v', -, heq⟩ := p.mem_marks_statements.1 hm
    cases heq
    simp [Key.parts] at hpath
  exact {
    tables := fun part hm => by
      obtain ⟨m, hm, harray⟩ := List.mem_filterMap.1 hm
      obtain ⟨s, v, -, rfl⟩ := p.mem_marks_statements.1 hm
      cases harray
    parts := fun part v h => by rw [hparts part] at h; cases h
    settings := fun s => by
      rw [chosen?, hparts s.part]
      exact Option.ext fun v => p.entered?_statements_iff
    others := fun s h m hm hle => by
      obtain ⟨s', v', hv', rfl⟩ := p.mem_marks_statements.1 hm
      rw [Setting.eq_of_path_isPrefix s s.mem_all s' s'.mem_all hle, hv'] at h
      cases h }

/-- Each chosen value can be written. -/
theorem exists_writes {s : Setting} {v : Value} (h : p.value? s = some v) :
    ∃ t, WritesScalar v t := by
  have hstring (t : Text) : ∃ u, WritesScalar (.string t) u := by
    obtain ⟨u, hu⟩ := exists_writesString t
    exact ⟨u, .string (.line hu)⟩
  have hboolean (b : Bool) : ∃ u, WritesScalar (.boolean b) u := by
    cases b with
    | true => exact ⟨_, .yes⟩
    | false => exact ⟨_, .no⟩
  rcases s with _ | f | f
  · obtain ⟨t, -, rfl⟩ := Option.map_eq_some_iff.1 h
    exact hstring t
  · cases f with
    | useEnvProxy =>
      obtain ⟨b, -, rfl⟩ := Option.map_eq_some_iff.1 h
      exact hboolean b
    | _ =>
      obtain ⟨t, -, rfl⟩ := Option.map_eq_some_iff.1 h
      exact hstring t
  · cases f with
    | logLevel =>
      obtain ⟨t, -, rfl⟩ := Option.map_eq_some_iff.1 h
      exact hstring t
    | format =>
      obtain ⟨x, -, rfl⟩ := Option.map_eq_some_iff.1 h
      exact hstring x.name

theorem exists_document :
    ∃ ss t, WritesDocument ss t ∧ Agree ss ∧ Chooses ss p := by
  obtain ⟨t, ht⟩ := exists_writesDocument p.entries fun kv hkv => by
    obtain ⟨s, -, h⟩ := List.mem_filterMap.1 hkv
    obtain ⟨v, hv, rfl⟩ := Option.map_eq_some_iff.1 h
    obtain ⟨t, ht⟩ := exists_writesKey s
    obtain ⟨u, hu⟩ := p.exists_writes hv
    exact ⟨_, .mk ht isBlank_nil (writes_of_scalar hu deepest)⟩
  exact ⟨_, t, ht, p.agree_statements, p.chooses_statements⟩

end PartialConfig

end CredentialGateway
