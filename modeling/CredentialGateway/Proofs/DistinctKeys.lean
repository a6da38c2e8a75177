import CredentialGateway.Toml.Document
import Mathlib.Data.List.Nodup

/-!
# Distinct keys

A table that has been read has no key twice, and neither has any table in it.  The readers of values
make such tables, and every line keeps the document one.

    parse t = some es → Tidy es                                          (tidy_of_parse)
-/

namespace CredentialGateway.Toml

/-- Neither array nor table. -/
def Value.IsScalar : Value → Prop
  | array .. => False
  | table .. => False
  | _ => True

/-- No table in the value has a key twice. -/
inductive Value.IsTidy : Value → Prop
  | scalar {v : Value} (h : v.IsScalar) : IsTidy v
  | array {growing : Bool} {items : List Value} (h : ∀ v ∈ items, IsTidy v) :
      IsTidy (.array growing items)
  | table {o : Origin} {es : Entries} (hkeys : (es.map (·.1)).Nodup)
      (h : ∀ e ∈ es, IsTidy e.2) : IsTidy (.table o es)

/-- No key comes twice, and no table in the values has a key twice. -/
structure Tidy (es : Entries) : Prop where
  keys : (es.map (·.1)).Nodup
  values : ∀ e ∈ es, e.2.IsTidy

theorem Value.isTidy_table_iff {o : Origin} {es : Entries} :
    (Value.table o es).IsTidy ↔ Tidy es := by
  constructor
  · intro h
    cases h with
    | scalar h => exact h.elim
    | table hkeys h => exact ⟨hkeys, h⟩
  · exact fun h => .table h.keys h.values

theorem Value.isTidy_array_iff {growing : Bool} {items : List Value} :
    (Value.array growing items).IsTidy ↔ ∀ v ∈ items, v.IsTidy := by
  constructor
  · intro h
    cases h with
    | scalar h => exact h.elim
    | array h => exact h
  · exact .array

/-! ## Changed tables -/

section Change

variable {es : Entries} {key : Text} {v : Value}

theorem tidy_nil : Tidy [] := ⟨List.nodup_nil, by simp⟩

theorem mem_of_lookup (h : es.lookup key = some v) : (key, v) ∈ es := by
  obtain ⟨front, back, rfl, -⟩ := List.lookup_eq_some_iff.1 h
  simp

theorem not_mem_keys_iff : key ∉ es.map (·.1) ↔ es.lookup key = none := by
  rw [List.lookup_eq_none_iff, List.mem_map]
  constructor
  · exact fun h e he => bne_iff_ne.2 fun hk => h ⟨e, he, hk.symm⟩
  · rintro h ⟨e, he, rfl⟩
    simpa using h e he

namespace Tidy

theorem lookup (h : Tidy es) (hv : es.lookup key = some v) : v.IsTidy :=
  h.values _ (mem_of_lookup hv)

theorem append (h : Tidy es) (hkey : es.lookup key = none) (hv : v.IsTidy) :
    Tidy (es ++ [(key, v)]) where
  keys := by
    rw [List.map_append, List.nodup_append]
    refine ⟨h.keys, by simp, fun a ha b hb => ?_⟩
    rw [List.map_singleton, List.mem_singleton] at hb
    rintro rfl
    rw [hb] at ha
    exact not_mem_keys_iff.2 hkey ha
  values e he := by
    rcases List.mem_append.1 he with he | he
    · exact h.values e he
    · rwa [List.mem_singleton.1 he]

theorem replace (h : Tidy es) (hv : v.IsTidy) : Tidy (replace key v es) where
  keys := by
    have hkeys : (Toml.replace key v es).map (·.1) = es.map (·.1) := by
      rw [Toml.replace, List.map_map]
      refine List.map_congr_left fun e _ => ?_
      by_cases hk : e.1 = key <;> simp [hk]
    rw [hkeys]
    exact h.keys
  values e he := by
    obtain ⟨⟨k, old⟩, hold, rfl⟩ := List.mem_map.1 he
    by_cases hk : k = key
    · simpa [hk] using hv
    · simpa [hk] using h.values _ hold

theorem filter (h : Tidy es) (p : Text × Value → Bool) : Tidy (es.filter p) where
  keys := (List.Sublist.map _ List.filter_sublist).nodup h.keys
  values e he := h.values e (List.mem_filter.1 he).1

end Tidy

end Change

/-! ## The way to a table -/

theorem isTidy_of_modifyLast {f : Value → Option Value} {vs vs' : List Value}
    (hf : ∀ v v', v.IsTidy → f v = some v' → v'.IsTidy) (hvs : ∀ v ∈ vs, v.IsTidy)
    (h : modifyLast f vs = some vs') : ∀ v ∈ vs', v.IsTidy := by
  fun_induction modifyLast f vs generalizing vs' with
  | case1 => cases h
  | case2 x =>
    obtain ⟨x', hx', rfl⟩ := Option.map_eq_some_iff.1 h
    simpa using hf x x' (hvs x (by simp)) hx'
  | case3 x y rest ih =>
    obtain ⟨rest', hrest', rfl⟩ := Option.map_eq_some_iff.1 h
    intro v hv
    rcases List.mem_cons.1 hv with rfl | hv
    · exact hvs v (by simp)
    · exact ih (fun w hw => hvs w (List.mem_cons_of_mem _ hw)) hrest' v hv

theorem isTidy_of_enter {dotted : Bool} {f : Origin → Entries → Option Entries} {v v' : Value}
    (hf : ∀ o es es', Tidy es → f o es = some es' → Tidy es') (hv : v.IsTidy)
    (h : enter dotted f v = some v') : v'.IsTidy := by
  unfold enter at h
  split at h
  · split at h
    · cases h
    · obtain ⟨es', hes', rfl⟩ := Option.map_eq_some_iff.1 h
      exact Value.isTidy_table_iff.2 (hf _ _ _ (Value.isTidy_table_iff.1 hv) hes')
  · cases h

theorem tidy_of_descend {dotted : Bool} {f : Origin → Entries → Option Entries}
    (hf : ∀ o es es', Tidy es → f o es = some es' → Tidy es') {origin : Origin}
    {path : List Text} {es es' : Entries} (hes : Tidy es)
    (h : descend dotted f origin path es = some es') : Tidy es' := by
  induction path generalizing origin es es' with
  | nil => exact hf origin es es' hes h
  | cons key path ih =>
    have further (o : Origin) (sub sub' : Entries) (hsub : Tidy sub)
        (h : descend dotted f o path sub = some sub') : Tidy sub' := ih hsub h
    rw [descend] at h
    split at h
    · rename_i hkey
      obtain ⟨sub, hsub, rfl⟩ := Option.map_eq_some_iff.1 h
      exact hes.append hkey (Value.isTidy_table_iff.2 (further _ _ _ tidy_nil hsub))
    · rename_i items hkey
      obtain ⟨items', hitems', rfl⟩ := Option.map_eq_some_iff.1 h
      exact hes.replace (Value.isTidy_array_iff.2 (isTidy_of_modifyLast
        (fun v v' hv => isTidy_of_enter further hv)
        (Value.isTidy_array_iff.1 (hes.lookup hkey)) hitems'))
    · rename_i v _ hkey
      obtain ⟨v', hv', rfl⟩ := Option.map_eq_some_iff.1 h
      exact hes.replace (isTidy_of_enter further (hes.lookup hkey) hv')

theorem tidy_of_addEntry {path : List Text} {key : Text} {v : Value} {origin : Origin}
    {es es' : Entries} (hv : v.IsTidy) (hes : Tidy es)
    (h : addEntry path key v origin es = some es') : Tidy es' := by
  refine tidy_of_descend (fun o sub sub' hsub hadd => ?_) hes h
  split at hadd
  · cases hadd
  · rename_i hfree
    cases hadd
    rw [Bool.or_eq_true, not_or] at hfree
    exact hsub.append (Option.not_isSome_iff_eq_none.1 hfree.2) hv

theorem tidy_of_openTable {key : Text} {es es' : Entries} (hes : Tidy es)
    (h : openTable key es = some es') : Tidy es' := by
  unfold openTable at h
  split at h
  · rename_i hkey
    cases h
    exact hes.append hkey (Value.isTidy_table_iff.2 tidy_nil)
  · rename_i sub hkey
    cases h
    refine (hes.filter _).append ?_ (Value.isTidy_table_iff.2
      (Value.isTidy_table_iff.1 (hes.lookup hkey)))
    rw [← not_mem_keys_iff]
    simp
  · cases h

theorem tidy_of_growArray {key : Text} {es es' : Entries} (hes : Tidy es)
    (h : growArray key es = some es') : Tidy es' := by
  have hnew : (Value.table .header []).IsTidy := Value.isTidy_table_iff.2 tidy_nil
  unfold growArray at h
  split at h
  · rename_i hkey
    cases h
    exact hes.append hkey (.array (by simpa using hnew))
  · rename_i items hkey
    cases h
    have hitems := Value.isTidy_array_iff.1 (hes.lookup hkey)
    refine hes.replace (.array fun v hv => ?_)
    rcases List.mem_append.1 hv with hv | hv
    · exact hitems v hv
    · rwa [List.mem_singleton.1 hv]
  · cases h

/-! ## Values -/

theorem Number.isScalar_of_integer? {n : Int} {v : Value} (h : integer? n = some v) :
    v.IsScalar := by
  unfold integer? at h
  split at h
  · cases h
    trivial
  · cases h

theorem Number.isScalar_of_signed {negative : Bool} {t rest : Text} {v : Value}
    (h : signed negative t = some (v, rest)) : v.IsScalar := by
  unfold signed at h
  split at h
  · cases h
    trivial
  · cases h
    trivial
  · simp only [decimal, Option.bind_eq_bind, Option.bind_eq_some_iff] at h
    obtain ⟨whole, -, behind, -, e, -, h⟩ := h
    split at h
    · obtain ⟨w, hw, h⟩ := Option.bind_eq_some_iff.1 h
      cases h
      exact isScalar_of_integer? hw
    · split at h
      · cases h
      · cases h
        trivial

theorem Number.isScalar_of_inBase {base : Nat} {t rest : Text} {v : Value}
    (h : inBase base t = some (v, rest)) : v.IsScalar := by
  simp only [inBase, Option.bind_eq_bind, Option.bind_eq_some_iff] at h
  obtain ⟨ds, -, w, hw, h⟩ := h
  cases h
  exact isScalar_of_integer? hw

theorem Number.isScalar_of_read {t rest : Text} {v : Value} (h : read t = some (v, rest)) :
    v.IsScalar := by
  unfold read at h
  split at h
  · exact isScalar_of_inBase h
  · exact isScalar_of_inBase h
  · exact isScalar_of_inBase h
  · exact isScalar_of_signed h
  · exact isScalar_of_signed h
  · exact isScalar_of_signed h

theorem isScalar_of_scalar {t rest : Text} {v : Value} (h : scalar t = some (v, rest)) :
    v.IsScalar := by
  unfold scalar at h
  split at h
  · cases h
    trivial
  · cases h
    trivial
  · split at h
    · obtain ⟨⟨s, r⟩, -, h⟩ := Option.map_eq_some_iff.1 h
      cases h
      trivial
    · split at h
      · cases h
        trivial
      · exact Number.isScalar_of_read h
  · cases h

section Containers

variable {item : Reader Value}

theorem isTidy_of_keyValue (hitem : ∀ t v rest, item t = some (v, rest) → v.IsTidy)
    {t rest : Text} {k : Key} {v : Value} (h : keyValue item t = some ((k, v), rest)) :
    v.IsTidy := by
  simp only [keyValue, Option.bind_eq_bind, Option.bind_eq_some_iff] at h
  obtain ⟨⟨k', r⟩, -, h⟩ := h
  split at h
  · obtain ⟨⟨v', r'⟩, hv, h⟩ := Option.bind_eq_some_iff.1 h
    cases h
    exact hitem _ _ _ hv
  · cases h

theorem isTidy_of_items (hitem : ∀ t v rest, item t = some (v, rest) → v.IsTidy)
    {t rest : Text} {vs : List Value} (h : items item t = some (vs, rest)) :
    ∀ v ∈ vs, v.IsTidy := by
  fun_induction items item t generalizing vs rest with
  | case1 t r hend =>
    cases h
    simp
  | case2 t start ih =>
    simp only [Option.bind_eq_bind, Option.bind_eq_some_iff] at h
    obtain ⟨⟨v, r⟩, hv, h⟩ := h
    split at h
    · cases h
      simpa using hitem _ _ _ hv
    · split at h
      · rename_i hlt
        obtain ⟨⟨vs', r''⟩, hvs', h⟩ := Option.bind_eq_some_iff.1 h
        cases h
        intro w hw
        rcases List.mem_cons.1 hw with rfl | hw
        · exact hitem _ _ _ hv
        · exact ih _ hlt hvs' w hw
      · cases h
    · cases h

theorem tidy_of_inlineEntries (hitem : ∀ t v rest, item t = some (v, rest) → v.IsTidy)
    {t rest : Text} {es es' : Entries} (hes : Tidy es)
    (h : inlineEntries item es t = some (es', rest)) : Tidy es' := by
  fun_induction inlineEntries item es t generalizing es' rest with
  | case1 es t ih =>
    simp only [Option.bind_eq_bind, Option.bind_eq_some_iff] at h
    obtain ⟨⟨⟨k, v⟩, r⟩, hkv, es₁, hadd, h⟩ := h
    have hes₁ := tidy_of_addEntry (isTidy_of_keyValue hitem hkv) hes hadd
    split at h
    · cases h
      exact hes₁
    · split at h
      · rename_i hlt
        exact ih _ _ hlt hes₁ h
      · cases h
    · cases h

end Containers

theorem isTidy_of_value {depth : Nat} {t rest : Text} {v : Value}
    (h : value depth t = some (v, rest)) : v.IsTidy := by
  induction depth generalizing t v rest with
  | zero =>
    rw [value] at h
    split at h
    · cases h
    · exact .scalar (isScalar_of_scalar h)
  | succ depth ih =>
    have hitem : ∀ t v rest, value depth t = some (v, rest) → v.IsTidy := fun _ _ _ => ih
    unfold value at h
    split at h
    · cases ‹_ = 0›
    · cases ‹_ + 1 = _ + 1›
      obtain ⟨⟨vs, r⟩, hvs, h⟩ := Option.map_eq_some_iff.1 h
      cases h
      exact .array (isTidy_of_items hitem hvs)
    · cases ‹_ + 1 = _ + 1›
      unfold inlineTable at h
      split at h
      · cases h
        exact Value.isTidy_table_iff.2 tidy_nil
      · obtain ⟨⟨es, r⟩, hes, h⟩ := Option.map_eq_some_iff.1 h
        cases h
        exact Value.isTidy_table_iff.2 (tidy_of_inlineEntries hitem tidy_nil hes)
    · exact .scalar (isScalar_of_scalar h)

/-! ## Lines -/

theorem tidy_of_add {d d' : Draft} {k : Key} {v : Value} (hd : Tidy d.root) (hv : v.IsTidy)
    (h : d.add k v = some d') : Tidy d'.root := by
  simp only [Draft.add, Option.bind_eq_bind, Option.bind_eq_some_iff] at h
  obtain ⟨root, hroot, h⟩ := h
  cases h
  exact tidy_of_descend (fun _ _ _ hes => tidy_of_addEntry hv hes) hd hroot

theorem tidy_of_turn {d d' : Draft} {k : Key} {make : Text → Entries → Option Entries}
    (hmake : ∀ key es es', Tidy es → make key es = some es' → Tidy es') (hd : Tidy d.root)
    (h : d.turn k make = some d') : Tidy d'.root := by
  simp only [Draft.turn, Option.bind_eq_bind, Option.bind_eq_some_iff] at h
  obtain ⟨root, hroot, h⟩ := h
  cases h
  exact tidy_of_descend (fun _ es es' hes => hmake _ es es' hes) hd hroot

/-- A line keeps the document tidy. -/
theorem tidy_of_line {d d' : Draft} {t rest : Text} (hd : Tidy d.root)
    (h : line d t = some (d', rest)) : Tidy d'.root := by
  unfold line at h
  split at h
  · simp only [Option.bind_eq_bind, Option.bind_eq_some_iff] at h
    obtain ⟨⟨k, r⟩, -, h⟩ := h
    split at h
    · simp only [Option.bind_eq_some_iff] at h
      obtain ⟨d₁, hd₁, r', -, h⟩ := h
      cases h
      exact tidy_of_turn (fun _ _ _ => tidy_of_growArray) hd hd₁
    · cases h
  · simp only [Option.bind_eq_bind, Option.bind_eq_some_iff] at h
    obtain ⟨⟨k, r⟩, -, h⟩ := h
    split at h
    · simp only [Option.bind_eq_some_iff] at h
      obtain ⟨d₁, hd₁, r', -, h⟩ := h
      cases h
      exact tidy_of_turn (fun _ _ _ => tidy_of_openTable) hd hd₁
    · cases h
  · simp only [Option.bind_eq_bind, Option.bind_eq_some_iff] at h
    obtain ⟨⟨⟨k, v⟩, r⟩, hkv, d₁, hd₁, r', -, h⟩ := h
    cases h
    exact tidy_of_add hd (isTidy_of_keyValue (fun _ _ _ => isTidy_of_value) hkv) hd₁

theorem tidy_of_lines {d d' : Draft} {t : Text} (hd : Tidy d.root) (h : lines d t = some d') :
    Tidy d'.root := by
  fun_induction lines d t with
  | case1 => cases h; exact hd
  | case2 _ _ _ _ _ _ ih => exact ih hd h
  | case3 => cases h
  | case4 _ _ _ _ _ hline _ ih => exact ih (tidy_of_line hd hline) h
  | case5 => cases h
  | case6 => cases h

/-- No table that a text writes has a key twice. -/
theorem tidy_of_parse {t : Text} {es : Entries} (h : parse t = some es) : Tidy es := by
  obtain ⟨d, hd, rfl⟩ := Option.map_eq_some_iff.1 h
  exact tidy_of_lines tidy_nil hd

end CredentialGateway.Toml
