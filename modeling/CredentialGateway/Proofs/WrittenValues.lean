import CredentialGateway.Proofs.DistinctKeys
import CredentialGateway.Proofs.WrittenKeys

/-!
# How values are written

The items of an array and the entries of a table between braces have commas between them; between
the items of an array there may be line ends and comments too.  A written value is read up to its
end, whatever stands behind it that may follow a value.

    Writes depth v t, Ends rest → value depth (t ++ rest) = some (v, rest)      (reads_of_writes)
-/

namespace CredentialGateway.Toml

/-! ## Values -/

/-- What may follow a value: blanks, and then the end of the text or of the line, a comment, a comma
or a closing bracket or brace. -/
def Ends (rest : Text) : Prop :=
  match skipBlanks rest with
  | [] => True
  | c :: r => c ∈ ['#', '\n', ',', ']', '\x7d'] ∨ c = '\r' ∧ r.head? = some '\n'

/-- The text writes a value that is neither array nor table.  Numbers and dates are what the reader
of such values takes for them, whatever follows. -/
inductive WritesScalar : Value → Text → Prop
  | string {s t : Text} (h : WritesText s t) : WritesScalar (.string s) t
  | yes : WritesScalar (.boolean true) "true"
  | no : WritesScalar (.boolean false) "false"
  | other {v : Value} {c : Char} {t : Text} (hsolid : IsSolid c) (hc : c ∉ ['[', ']', '\x7b'])
      (h : ∀ rest, Ends rest → scalar (c :: (t ++ rest)) = some (v, rest)) :
      WritesScalar v (c :: t)

section Containers

-- how the values inside are written
variable (W : Value → Text → Prop)

/-- The text writes the items of an array, up to its closing bracket. -/
inductive WritesItems : List Value → Text → Prop
  | nil {g : Text} (hg : Gap g) : WritesItems [] (g ++ [']'])
  | last {g t g' : Text} {v : Value} (hg : Gap g) (h : W v t) (hg' : Gap g') :
      WritesItems [v] (g ++ (t ++ (g' ++ [']'])))
  | cons {g t g' r : Text} {v : Value} {vs : List Value} (hg : Gap g) (h : W v t) (hg' : Gap g')
      (hr : WritesItems vs r) : WritesItems (v :: vs) (g ++ (t ++ (g' ++ ',' :: r)))

/-- The text writes a key, an equals sign and a value. -/
inductive WritesEntry : Key → Value → Text → Prop
  | mk {k : Key} {v : Value} {t b u : Text} (hk : WritesKey k t) (hb : IsBlank b) (h : W v u) :
      WritesEntry k v (t ++ '=' :: (b ++ u))

/-- The text writes the entries of a table, up to its closing brace. -/
inductive WritesEntries : List Statement → Text → Prop
  | last {k : Key} {v : Value} {t b : Text} (h : WritesEntry W k v t) (hb : IsBlank b) :
      WritesEntries [.entry k v] (t ++ (b ++ ['\x7d']))
  | cons {k : Key} {v : Value} {t b r : Text} {ss : List Statement} (h : WritesEntry W k v t)
      (hb : IsBlank b) (hr : WritesEntries ss r) :
      WritesEntries (.entry k v :: ss) (t ++ (b ++ ',' :: r))

/-- The text writes an array, or a table between braces. -/
inductive WritesContainer : Value → Text → Prop
  | array {vs : List Value} {t : Text} (h : WritesItems W vs t) :
      WritesContainer (.array false vs) ('[' :: t)
  | empty {b : Text} (hb : IsBlank b) :
      WritesContainer (.table .closed []) ('\x7b' :: (b ++ ['\x7d']))
  | table {ss : List Statement} {es : Entries} {t : Text} (h : WritesEntries W ss t)
      (hes : Builds ss es) : WritesContainer (.table .closed es) ('\x7b' :: t)

variable {W}

theorem WritesEntry.trim {k : Key} {v : Value} {t : Text} (h : WritesEntry W k v t) :
    ∃ b c r, t = b ++ c :: r ∧ IsBlank b ∧ StartsKey c ∧ WritesEntry W k v (c :: r) := by
  cases h with
  | @mk t b u hk hb h =>
    obtain ⟨b', c, r, rfl, hb', hc, hk'⟩ := hk.trim
    exact ⟨b', c, r ++ '=' :: (b ++ u), by simp, hb', hc, .mk hk' hb h⟩

theorem WritesEntries.trim {ss : List Statement} {t : Text} (h : WritesEntries W ss t) :
    ∃ b c r, t = b ++ c :: r ∧ IsBlank b ∧ StartsKey c ∧ WritesEntries W ss (c :: r) := by
  cases h with
  | @last k v t b h hb =>
    obtain ⟨b', c, r, rfl, hb', hc, h'⟩ := h.trim
    exact ⟨b', c, r ++ (b ++ ['\x7d']), by simp, hb', hc, .last h' hb⟩
  | @cons k v t b r ss h hb hr =>
    obtain ⟨b', c, u, rfl, hb', hc, h'⟩ := h.trim
    exact ⟨b', c, u ++ (b ++ ',' :: r), by simp, hb', hc, .cons h' hb hr⟩

end Containers

/-- The text writes a value in which containers nest at most `depth` deep. -/
def Writes : Nat → Value → Text → Prop
  | 0, v, t => WritesScalar v t
  | depth + 1, v, t => WritesScalar v t ∨ WritesContainer (Writes depth) v t

theorem writes_of_scalar {v : Value} {t : Text} (h : WritesScalar v t) (depth : Nat) :
    Writes depth v t := by
  cases depth with
  | zero => exact h
  | succ depth => exact .inl h

/-! ## What follows a value -/

section Ends

variable {b g : Text} {x : Char}

theorem Ends.head_ne {rest : Text} (h : Ends rest) :
    rest.head? ≠ some '"' ∧ rest.head? ≠ some '\x27' := by
  constructor <;> intro hc <;> obtain ⟨r, rfl⟩ := List.head?_eq_some_iff.1 hc <;>
    simp [Ends, skipBlanks] at h

theorem ends_append (hb : IsBlank b) (hx : x ∈ ['#', '\n', ',', ']', '\x7d']) (t : Text) :
    Ends (b ++ x :: t) := by
  have hblank : x ≠ ' ' ∧ x ≠ '\t' := by
    constructor <;> rintro rfl <;> revert hx <;> decide
  rw [Ends, skipBlanks_append hb hblank]
  exact .inl hx

theorem ends_of_isBlank (hb : IsBlank b) : Ends b := by
  rw [Ends, skipBlanks_of_isBlank hb]
  trivial

theorem ends_comment {c : Text} (hb : IsBlank b) (hc : IsComment c) (hne : c ≠ []) (t : Text) :
    Ends (b ++ (c ++ t)) := by
  obtain ⟨r, rfl, -⟩ := hc.resolve_left hne
  exact ends_append hb (by decide) _

theorem ends_line {c e : Text} (hb : IsBlank b) (hc : IsComment c) (he : IsLineEnd e) (t : Text) :
    Ends (b ++ (c ++ (e ++ t))) := by
  by_cases hne : c = []
  · rw [hne, List.nil_append]
    rcases he with rfl | rfl
    · exact ends_append hb (by decide) t
    · rw [Ends, List.cons_append, skipBlanks_append hb (by decide)]
      exact .inr ⟨rfl, rfl⟩
  · exact ends_comment hb hc hne _

theorem ends_gap (hg : Gap g) (hx : x = ',' ∨ x = ']') (t : Text) : Ends (g ++ x :: t) := by
  cases hg with
  | blanks hb => exact ends_append hb (by rcases hx with rfl | rfl <;> decide) t
  | line hb hc he hg =>
    simp only [List.append_assoc]
    exact ends_line hb hc he _

end Ends

/-! ## Reading what is written -/

/-- The reader reads the value from the text, whatever may follow. -/
structure Reads (item : Reader Value) (v : Value) (t : Text) : Prop where
  start : ∃ c r, t = c :: r ∧ IsSolid c ∧ c ≠ ']'
  read : ∀ rest, Ends rest → item (t ++ rest) = some (v, rest)

theorem scalar_of_quote {c : Char} (hc : c = '"' ∨ c = '\x27') (t : Text) :
    scalar (c :: t) = (Quote.read (c :: t)).map fun (s, rest) => (.string s, rest) := by
  rcases hc with rfl | rfl <;> rfl

theorem value_of_scalar {c : Char} (hc : c ∉ ['[', ']', '\x7b']) (depth : Nat) (t : Text) :
    value depth (c :: t) = scalar (c :: t) := by
  cases depth with
  | zero => rw [value, if_neg]; simp_all
  | succ depth => rw [value] <;> simp_all

theorem reads_scalar {v : Value} {t : Text} (h : WritesScalar v t) (depth : Nat) :
    Reads (value depth) v t := by
  cases h with
  | @string s t h =>
    obtain ⟨c, r, rfl, hc⟩ := h.exists_cons
    refine ⟨⟨c, r, rfl, by rcases hc with rfl | rfl <;> decide⟩, fun rest hrest => ?_⟩
    rw [List.cons_append, value_of_scalar (by rcases hc with rfl | rfl <;> decide),
      scalar_of_quote hc, ← List.cons_append, read_append h hrest.head_ne]
    rfl
  | yes =>
    refine ⟨⟨'t', _, rfl, by decide⟩, fun rest _ => ?_⟩
    exact value_of_scalar (c := 't') (by decide) depth _
  | no =>
    refine ⟨⟨'f', _, rfl, by decide⟩, fun rest _ => ?_⟩
    exact value_of_scalar (c := 'f') (by decide) depth _
  | other hsolid hc h =>
    refine ⟨⟨_, _, rfl, hsolid, ?_⟩, fun rest hrest => ?_⟩
    · rintro rfl
      simp at hc
    · rw [List.cons_append, value_of_scalar hc]
      exact h rest hrest

section Containers

variable {W : Value → Text → Prop} {item : Reader Value} (hW : ∀ v t, W v t → Reads item v t)

include hW

theorem items_of_writes {vs : List Value} {t : Text} (h : WritesItems W vs t) (rest : Text) :
    items item (t ++ rest) = some (vs, rest) := by
  induction h with
  | nil hg =>
    rw [List.append_assoc, items, List.singleton_append, skipLines_append hg (by decide)]
    rfl
  | @last g t g' v hg h hg' =>
    obtain ⟨⟨c, r, rfl, hsolid, hc⟩, hread⟩ := hW v t h
    simp only [List.append_assoc, List.singleton_append]
    rw [items, List.cons_append, skipLines_append hg hsolid]
    split
    · rename_i heq
      cases heq
      exact absurd rfl hc
    · rw [← List.cons_append, hread _ (ends_gap hg' (.inr rfl) rest)]
      simp only [Option.bind_eq_bind, Option.bind_some]
      rw [skipLines_append hg' (by decide)]
      rfl
  | @cons g t g' r v vs hg h hg' hr ih =>
    obtain ⟨⟨c, u, rfl, hsolid, hc⟩, hread⟩ := hW v t h
    have hlen : (r ++ rest).length < (g ++ (c :: u ++ (g' ++ ',' :: (r ++ rest)))).length := by
      simp only [List.length_append, List.length_cons]
      omega
    simp only [List.append_assoc, List.cons_append]
    rw [items, skipLines_append hg hsolid]
    split
    · rename_i heq
      cases heq
      exact absurd rfl hc
    · rw [← List.cons_append, hread _ (ends_gap hg' (.inl rfl) _)]
      simp only [Option.bind_eq_bind, Option.bind_some]
      rw [skipLines_append hg' (by decide)]
      simp only
      rw [if_pos hlen, ih]
      rfl

theorem keyValue_of_writes {k : Key} {v : Value} {t rest : Text} (h : WritesEntry W k v t)
    (hrest : Ends rest) : keyValue item (t ++ rest) = some ((k, v), rest) := by
  cases h with
  | @mk t b u hk hb h =>
    obtain ⟨⟨c, r, rfl, hsolid, -⟩, hread⟩ := hW v u h
    rw [List.append_assoc, List.cons_append, List.append_assoc, keyValue,
      key_of_writes hk (.inl rfl)]
    simp only [Option.bind_eq_bind, Option.bind_some, List.cons_append]
    rw [skipBlanks_append hb hsolid.not_blank, ← List.cons_append, hread rest hrest]
    rfl

omit hW in
/-- Above the first header an entry goes to the table itself. -/
theorem addEntry_of_foldlM {es : Entries} {k : Key} {v : Value} {ss : List Statement} {d : Draft}
    (h : (Statement.entry k v :: ss).foldlM Draft.follow ⟨es, []⟩ = some d) :
    ∃ es', addEntry k.path k.last v .header es = some es' ∧
      ss.foldlM Draft.follow ⟨es', []⟩ = some d := by
  rw [List.foldlM_cons] at h
  obtain ⟨d', hd', h⟩ := Option.bind_eq_some_iff.1 h
  obtain ⟨es', hes', heq⟩ := Option.bind_eq_some_iff.1 hd'
  cases heq
  exact ⟨es', hes', h⟩

theorem inlineEntries_of_writes {ss : List Statement} {t : Text} (h : WritesEntries W ss t)
    {es es' : Entries} {path : List Text}
    (hes : ss.foldlM Draft.follow ⟨es, []⟩ = some ⟨es', path⟩) (rest : Text) :
    inlineEntries item es (t ++ rest) = some (es', rest) := by
  induction h generalizing es with
  | @last k v t b h hb =>
    obtain ⟨es₁, hadd, hes⟩ := addEntry_of_foldlM hes
    cases hes
    simp only [List.append_assoc, List.singleton_append]
    rw [inlineEntries, keyValue_of_writes hW h (ends_append hb (by decide) rest)]
    simp only [Option.bind_eq_bind, Option.bind_some]
    rw [hadd, Option.bind_some, skipBlanks_append hb (by decide)]
    rfl
  | @cons k v t b r ss h hb hr ih =>
    obtain ⟨es₁, hadd, hes⟩ := addEntry_of_foldlM hes
    have hlen : (r ++ rest).length < (t ++ (b ++ ',' :: (r ++ rest))).length := by
      simp only [List.length_append, List.length_cons]
      omega
    simp only [List.append_assoc, List.cons_append]
    rw [inlineEntries, keyValue_of_writes hW h (ends_append hb (by decide) _)]
    simp only [Option.bind_eq_bind, Option.bind_some]
    rw [hadd, Option.bind_some, skipBlanks_append hb (by decide)]
    simp only
    rw [if_pos hlen, ih hes]

/-- Where the values inside are read, arrays and tables of them are. -/
theorem reads_container {depth : Nat} (hitem : item = value depth) {v : Value} {t : Text}
    (h : WritesContainer W v t) : Reads (value (depth + 1)) v t := by
  subst hitem
  cases h with
  | array h =>
    refine ⟨⟨'[', _, rfl, by decide⟩, fun rest _ => ?_⟩
    rw [List.cons_append, value, items_of_writes hW h]
    rfl
  | @empty b hb =>
    refine ⟨⟨'\x7b', _, rfl, by decide⟩, fun rest _ => ?_⟩
    rw [List.cons_append, value, inlineTable, List.append_assoc, List.singleton_append,
      skipBlanks_append hb (by decide)]
    rfl
  | table h hes =>
    refine ⟨⟨'\x7b', _, rfl, by decide⟩, fun rest _ => ?_⟩
    obtain ⟨path, hes⟩ := hes
    obtain ⟨b, c, r, rfl, hb, hc, h⟩ := h.trim
    rw [List.cons_append, value, inlineTable, List.append_assoc, List.cons_append,
      skipBlanks_append hb hc.isSolid.not_blank]
    split
    · rename_i heq
      cases heq
      exact absurd rfl (hc.ne (by decide))
    · rw [← List.cons_append, inlineEntries_of_writes hW h hes]
      rfl

end Containers

/-- A value is read as it was written, whatever may follow. -/
theorem reads_of_writes {depth : Nat} {v : Value} {t : Text} (h : Writes depth v t) :
    Reads (value depth) v t := by
  induction depth generalizing v t with
  | zero => exact reads_scalar h 0
  | succ depth ih =>
    rcases h with h | h
    · exact reads_scalar h _
    · exact reads_container (fun _ _ => ih) rfl h

/-! ## Written values are complete -/

theorem Value.node_of_isScalar {v : Value} (h : v.IsScalar) : v.node = .complete v := by
  cases v <;> first | rfl | exact h.elim

theorem node_of_writesScalar {v : Value} {t : Text} (h : WritesScalar v t) :
    v.node = .complete v := by
  cases h with
  | other _ _ h => exact Value.node_of_isScalar (isScalar_of_scalar (h [] trivial))
  | _ => rfl

theorem node_of_writes {depth : Nat} {v : Value} {t : Text} (h : Writes depth v t) :
    v.node = .complete v := by
  cases depth with
  | zero => exact node_of_writesScalar h
  | succ depth =>
    rcases h with h | h
    · exact node_of_writesScalar h
    · cases h <;> rfl

end CredentialGateway.Toml
