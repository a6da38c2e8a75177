import CredentialGateway.Proofs.WrittenValues

/-!
# How documents are written

Each line of a document enters a value under a key, names a table between brackets or an array of
tables between two each, or says nothing, and any of them may end with a comment.  Reading the text
is following its statements, one after the other.

    WritesLines true ss t → lines d t = ss.foldlM Draft.follow d               (lines_of_writes)
    t writes ss, ss builds es → parse t = some es                               (parse_of_writes)
-/

namespace CredentialGateway.Toml

/-- The text writes the statements from the start of a line on, or from the end of a statement on,
on whose line there is no other. -/
inductive WritesLines : (atStart : Bool) → List Statement → Text → Prop
  | done {atStart : Bool} {b c : Text} (hb : IsBlank b) (hc : IsComment c) :
      WritesLines atStart [] (b ++ c)
  | next {atStart : Bool} {ss : List Statement} {b c e t : Text} (hb : IsBlank b)
      (hc : IsComment c) (he : IsLineEnd e) (h : WritesLines true ss t) :
      WritesLines atStart ss (b ++ (c ++ (e ++ t)))
  | entry {ss : List Statement} {k : Key} {v : Value} {t r : Text}
      (hkv : WritesEntry (Writes deepest) k v t) (h : WritesLines false ss r) :
      WritesLines true (.entry k v :: ss) (t ++ r)
  | table {ss : List Statement} {k : Key} {b t r : Text} (hb : IsBlank b) (hk : WritesKey k t)
      (h : WritesLines false ss r) :
      WritesLines true (.header false k :: ss) (b ++ '[' :: (t ++ ']' :: r))
  | array {ss : List Statement} {k : Key} {b t r : Text} (hb : IsBlank b) (hk : WritesKey k t)
      (h : WritesLines false ss r) :
      WritesLines true (.header true k :: ss) (b ++ '[' :: '[' :: (t ++ ']' :: ']' :: r))

/-- The text writes the statements; a byte order mark in front says nothing. -/
def WritesDocument (ss : List Statement) (t : Text) : Prop :=
  WritesLines true ss (if t.head? = some '\ufeff' then t.drop 1 else t)

/-! ## Reading line after line -/

section Lines

variable {d : Draft} {ss : List Statement} {t r : Text}

theorem lines_nil (d : Draft) : lines d [] = some d := by
  rw [lines]
  rfl

theorem lines_of_endLine (h : endLine t = some r) (hlen : r = [] ∨ r.length < t.length) :
    lines d t = lines d r := by
  rw [lines, h]
  cases r with
  | nil => exact (lines_nil d).symm
  | cons c r => exact if_pos (hlen.resolve_left (by simp))

theorem WritesLines.ends (h : WritesLines false ss t) : Ends t := by
  generalize hstart : false = atStart at h
  cases h with
  | @done _ b c hb hc =>
    by_cases hne : c = []
    · rw [hne, List.append_nil]
      exact ends_of_isBlank hb
    · simpa using ends_comment hb hc hne []
  | next hb hc he h => exact ends_line hb hc he _
  | entry => cases hstart
  | table => cases hstart
  | array => cases hstart

theorem line_of_entry {c : Char} {k : Key} {v : Value} (hc : StartsKey c)
    (hkv : WritesEntry (Writes deepest) k v (c :: t)) {rest : Text} (hrest : Ends rest)
    (hend : endLine rest = some r) :
    line d (c :: t ++ rest) = (d.follow (.entry k v)).map (·, r) := by
  unfold line
  split
  · rename_i heq
    exact absurd (List.cons.inj heq).1 (hc.ne (by decide))
  · rename_i heq
    exact absurd (List.cons.inj heq).1 (hc.ne (by decide))
  · rw [keyValue_of_writes (fun _ _ => reads_of_writes) hkv hrest]
    simp only [Option.bind_eq_bind, Option.bind_some]
    rw [hend]
    cases hadd : d.add k v <;> simp [Draft.follow, hadd]

/-- No key starts with a bracket. -/
theorem WritesKey.head_ne {k : Key} (hk : WritesKey k t) (rest : Text) :
    (t ++ rest).head? ≠ some '[' := by
  obtain ⟨b, c, u, rfl, hb, hc, -⟩ := hk.trim
  cases b with
  | nil => simpa using hc.ne (by decide)
  | cons x b => rcases hb x (by simp) with rfl | rfl <;> simp

theorem line_of_table {k : Key} (hk : WritesKey k t) {rest : Text}
    (hend : endLine rest = some r) :
    line d ('[' :: (t ++ ']' :: rest)) = (d.follow (.header false k)).map (·, r) := by
  unfold line
  split
  · rename_i heq
    obtain ⟨-, heq⟩ := List.cons.inj heq
    exact absurd (by rw [heq]; rfl) (hk.head_ne (']' :: rest))
  · rename_i heq
    obtain ⟨-, rfl⟩ := List.cons.inj heq
    rw [key_of_writes hk (.inr rfl)]
    simp only [Option.bind_eq_bind, Option.bind_some]
    rw [hend]
    change _ = (d.turn k openTable).map (·, r)
    cases d.turn k openTable <;> rfl
  · rename_i hother
    exact (hother _ rfl).elim

theorem line_of_array {k : Key} (hk : WritesKey k t) {rest : Text}
    (hend : endLine rest = some r) :
    line d ('[' :: '[' :: (t ++ ']' :: ']' :: rest)) =
      (d.follow (.header true k)).map (·, r) := by
  unfold line
  simp only [key_of_writes hk (.inr rfl), Option.bind_eq_bind, Option.bind_some]
  rw [hend]
  change _ = (d.turn k growArray).map (·, r)
  cases d.turn k growArray <;> rfl

/-- What is left of a line says nothing, and the lines behind it are read like any others. -/
def ReadsRest (ss : List Statement) (t : Text) : Prop :=
  ∃ r, endLine t = some r ∧ (r = [] ∨ r.length < t.length) ∧
    ∀ d, lines d r = ss.foldlM Draft.follow d

theorem ReadsRest.lines (h : ReadsRest ss t) (d : Draft) :
    lines d t = ss.foldlM Draft.follow d := by
  obtain ⟨r, hend, hlen, hr⟩ := h
  rw [lines_of_endLine hend hlen, hr d]

/-- A line that says something is followed, and then the lines behind it are. -/
theorem lines_of_line {s : Statement} {b : Text} {c : Char} (hb : IsBlank b) (hc : IsSolid c)
    (hr : ReadsRest ss r) (hlen : r.length ≤ t.length)
    (hline : ∀ r', endLine r = some r' → line d (c :: t) = (d.follow s).map (·, r')) :
    lines d (b ++ c :: t) = (s :: ss).foldlM Draft.follow d := by
  obtain ⟨r', hend, hr', hlines⟩ := hr
  have hshort : r'.length < (b ++ c :: t).length := by
    rw [List.length_append, List.length_cons]
    rcases hr' with rfl | hr'
    · rw [List.length_nil]
      omega
    · omega
  rw [lines, endLine_of_solid hb hc t, List.foldlM_cons]
  simp only
  rw [skipBlanks_append hb hc.not_blank, hline r' hend]
  cases d.follow s with
  | none => rfl
  | some d' => exact (if_pos hshort).trans (hlines d')

theorem lines_or_rest_of_writes {atStart : Bool} (h : WritesLines atStart ss t) :
    if atStart = true then ∀ d, lines d t = ss.foldlM Draft.follow d else ReadsRest ss t := by
  -- where nothing is left on the line, both are known once the lines behind it are
  have both {atStart : Bool} {ss : List Statement} {t : Text} (h : ReadsRest ss t) :
      if atStart = true then ∀ d, lines d t = ss.foldlM Draft.follow d else ReadsRest ss t := by
    cases atStart with
    | false => exact h
    | true => exact h.lines
  induction h with
  | done hb hc => exact both ⟨[], endLine_of_end hb hc, .inl rfl, lines_nil⟩
  | @next atStart ss b c e t hb hc he h ih =>
    refine both ⟨t, endLine_append hb hc he t, .inr ?_, ih⟩
    rcases he with rfl | rfl <;> simp <;> omega
  | entry hkv h ih =>
    intro d
    obtain ⟨b, c, u, rfl, hb, hc, hkv⟩ := hkv.trim
    rw [List.append_assoc, List.cons_append]
    exact lines_of_line hb hc.isSolid ih (by simp) fun _ => line_of_entry hc hkv h.ends
  | table hb hk h ih =>
    exact fun d => lines_of_line hb (by decide) ih (by simp; omega) fun _ => line_of_table hk
  | array hb hk h ih =>
    exact fun d => lines_of_line hb (by decide) ih (by simp; omega) fun _ => line_of_array hk

/-- Reading lines is following their statements. -/
theorem lines_of_writes (h : WritesLines true ss t) (d : Draft) :
    lines d t = ss.foldlM Draft.follow d :=
  lines_or_rest_of_writes h d

end Lines

theorem parse_of_writes {ss : List Statement} {t : Text} {es : Entries}
    (h : WritesDocument ss t) (hes : Builds ss es) : parse t = some es := by
  obtain ⟨path, hes⟩ := hes
  rw [parse, lines_of_writes h, hes]
  rfl

/-- What lines enter is complete. -/
theorem node_of_writesLines {atStart : Bool} {ss : List Statement} {t : Text}
    (h : WritesLines atStart ss t) {k : Key} {v : Value} (hkv : .entry k v ∈ ss) :
    v.node = .complete v := by
  induction h with
  | done => cases hkv
  | next _ _ _ _ ih => exact ih hkv
  | entry hentry _ ih =>
    rcases List.mem_cons.1 hkv with heq | hkv
    · cases heq
      cases hentry with
      | mk _ _ h => exact node_of_writes h
    · exact ih hkv
  | table _ _ _ ih => exact ih ((List.mem_cons.1 hkv).resolve_left (by simp))
  | array _ _ _ ih => exact ih ((List.mem_cons.1 hkv).resolve_left (by simp))

end CredentialGateway.Toml
