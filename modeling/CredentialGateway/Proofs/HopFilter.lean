import CredentialGateway.Proofs.OutboundHeaders

/-!
# Headers that cross a hop

The names that belong to the hop are read off the headers that they are taken out of.  Taking them
out one after the other is a filter all the same: a field stays if its name crosses, whatever is
taken out before it.  A second pass finds no `Connection` and takes nothing out, and as a member
nominates by being there, it does not matter where.

    withoutHopByHop h = h.filter (h.Crosses ·.1)              (withoutHopByHop_eq_filter)
    withoutHopByHop (withoutHopByHop h) = withoutHopByHop h          (withoutHopByHop_idem)
    the same members, the same values of other names → the same is left      (values_congr)
-/

namespace CredentialGateway.Headers

/-! ## One name after the other -/

/-- In whatever order names are erased, what stays are the fields of the others. -/
theorem foldl_erase_eq_filter (names : List HeaderName) (h : Headers) :
    names.foldl (fun h name => erase name h) h = h.filter (·.1 ∉ names) := by
  induction names generalizing h with
  | nil => simp
  | cons m names ih =>
    rw [List.foldl_cons, ih, erase, List.filter_filter]
    refine List.filter_congr fun field _ => ?_
    rw [Bool.and_comm]
    simp [not_or]

theorem contains_iff {n : HeaderName} {h : Headers} :
    contains n h = true ↔ ∃ field ∈ h, field.1 = n := by
  simp [contains]

/-! ## What crosses -/

/-- The name does not belong to the hop: it is not one of those that always do, and no value of
`Connection` nominates it. -/
def Crosses (h : Headers) (n : HeaderName) : Prop :=
  n ∉ always ∧ ¬ ∃ v ∈ values .connection h, v.Nominates n

theorem crosses_iff {h : Headers} {n : HeaderName} :
    h.Crosses n ↔ n ∉ nominated h ++ always := by
  rw [Crosses, List.mem_append, mem_nominated_iff, not_or, and_comm]

instance (h : Headers) (n : HeaderName) : Decidable (h.Crosses n) :=
  decidable_of_iff _ crosses_iff.symm

theorem withoutHopByHop_eq_filter (h : Headers) :
    withoutHopByHop h = h.filter (h.Crosses ·.1) := by
  rw [withoutHopByHop, foldl_erase_eq_filter]
  exact List.filter_congr fun field _ => decide_eq_decide.2 crosses_iff.symm

theorem values_of_crosses {h : Headers} {n : HeaderName} (hn : h.Crosses n) :
    values n (withoutHopByHop h) = values n h := by
  rw [values_withoutHopByHop, if_neg (crosses_iff.1 hn)]

theorem contains_withoutHopByHop_iff {h : Headers} {n : HeaderName} :
    contains n (withoutHopByHop h) = true ↔ contains n h = true ∧ h.Crosses n := by
  simp only [contains_iff, withoutHopByHop_eq_filter, List.mem_filter, decide_eq_true_eq]
  constructor
  · rintro ⟨field, ⟨hmem, hn⟩, rfl⟩
    exact ⟨⟨field, hmem, rfl⟩, hn⟩
  · rintro ⟨⟨field, hmem, rfl⟩, hn⟩
    exact ⟨field, ⟨hmem, hn⟩, rfl⟩

/-- Without `Connection` only the names go that always do. -/
theorem withoutHopByHop_idem (h : Headers) :
    withoutHopByHop (withoutHopByHop h) = withoutHopByHop h := by
  have hnone : values .connection (withoutHopByHop h) = [] := by
    rw [values_withoutHopByHop, if_pos (List.mem_append_right _ (by decide))]
  rw [withoutHopByHop_eq_filter (withoutHopByHop h), List.filter_eq_self]
  intro field hmem
  rw [withoutHopByHop_eq_filter, List.mem_filter, decide_eq_true_eq] at hmem
  rw [decide_eq_true_eq, Crosses, hnone]
  exact ⟨hmem.2.1, by simp⟩

/-- Whether a name is kept does not depend on how often it is there. -/
theorem filter_once (name : HeaderName) (p : HeaderName → Bool) (h : Headers) :
    (once name h).filter (p ·.1) = once name (h.filter (p ·.1)) := by
  induction h with
  | nil => rfl
  | cons field h ih =>
    have hfilter (h : Headers) : (field :: h).filter (p ·.1) =
        if p field.1 = true then field :: h.filter (p ·.1) else h.filter (p ·.1) := List.filter_cons
    by_cases hn : field.1 = name
    · have herase : (erase name h).filter (p ·.1) = erase name (h.filter (p ·.1)) := by
        rw [erase, erase, List.filter_filter, List.filter_filter]
        exact List.filter_congr fun _ _ => Bool.and_comm _ _
      rw [once, if_pos hn, hfilter, hfilter, herase]
      split
      · rw [once, if_pos hn]
      · rename_i hp
        -- no field of the name is left
        have hother : ∀ other ∈ h.filter (p ·.1), other.1 ≠ name := fun other hother heq => by
          exact hp (hn.trans heq.symm ▸ (List.mem_filter.1 hother).2)
        have hnone : values name (h.filter (p ·.1)) = [] := by
          rw [values, List.map_eq_nil_iff, List.filter_eq_nil_iff]
          simpa using hother
        rw [once_of_length_le (by simp [hnone]), erase,
          List.filter_eq_self.2 fun other h => by simpa using hother other h]
    · rw [once, if_neg hn, hfilter, hfilter, ih]
      split
      · rw [once, if_neg hn]
      · rfl

/-- Which names cross does not depend on how often another than `Connection` is there. -/
theorem withoutHopByHop_once {name : HeaderName} (hname : name ≠ .connection) (h : Headers) :
    (once name h).withoutHopByHop = once name h.withoutHopByHop := by
  have hcrosses (n : HeaderName) : (once name h).Crosses n ↔ h.Crosses n := by
    rw [Crosses, Crosses, values_once, if_neg hname.symm]
  rw [withoutHopByHop_eq_filter, withoutHopByHop_eq_filter,
    ← filter_once name fun n => decide (h.Crosses n)]
  simp only [hcrosses]

/-! ## Members wherever they stand -/

/-- What stands between commas in the values of `Connection` that are text, blanks and all. -/
def written (h : Headers) : List Text :=
  ((values .connection h).filterMap (·.text?)).flatMap (·.splitOn ',')

theorem mem_nominated_iff_written {n : HeaderName} {h : Headers} :
    n ∈ nominated h ↔ ∃ m ∈ written h, HeaderName.ofText? (Text.trimBy isBlank m) = some n := by
  simp only [nominated, written, List.mem_flatMap, List.mem_filterMap]
  constructor
  · rintro ⟨v, hv, hn⟩
    unfold members at hn
    split at hn
    · rename_i t ht
      obtain ⟨m, hm, hname⟩ := List.mem_filterMap.1 hn
      exact ⟨m, ⟨t, ⟨v, hv, ht⟩, hm⟩, hname⟩
    · cases hn
  · rintro ⟨m, ⟨t, ⟨v, hv, ht⟩, hm⟩, hname⟩
    refine ⟨v, hv, ?_⟩
    rw [members, ht]
    exact List.mem_filterMap.2 ⟨m, hm, hname⟩

/-- The same members nominate the same names, wherever they stand. -/
theorem crosses_congr {h h' : Headers} (hwritten : ∀ m, m ∈ written h ↔ m ∈ written h')
    (n : HeaderName) : h.Crosses n ↔ h'.Crosses n := by
  simp only [crosses_iff, List.mem_append, mem_nominated_iff_written, hwritten]

theorem values_congr {h h' : Headers} (hwritten : ∀ m, m ∈ written h ↔ m ∈ written h')
    (hvalues : ∀ n, n ≠ .connection → values n h = values n h') (n : HeaderName) :
    values n (withoutHopByHop h) = values n (withoutHopByHop h') := by
  by_cases hn : h.Crosses n
  · have hne : n ≠ .connection := by
      rintro rfl
      exact hn.1 (by decide)
    rw [values_of_crosses hn, values_of_crosses ((crosses_congr hwritten n).1 hn), hvalues n hne]
  · have hn' : ¬ h'.Crosses n := fun hc => hn ((crosses_congr hwritten n).2 hc)
    rw [values_withoutHopByHop, values_withoutHopByHop, if_pos (by_contra (hn ∘ crosses_iff.2)),
      if_pos (by_contra (hn' ∘ crosses_iff.2))]

/-- The fields that stay are those whose names cross, and a name that crosses keeps all its values in
order.  Once is enough.  Headers with the same members in their values of `Connection`, in whatever
order and however they are spread over the values, and with the same values of all other names keep
the same. -/
theorem filters_hopByHop (h : Headers) :
    withoutHopByHop h = h.filter (h.Crosses ·.1) ∧
    (∀ n, contains n (withoutHopByHop h) = true ↔ contains n h = true ∧ h.Crosses n) ∧
    (∀ n, h.Crosses n → values n (withoutHopByHop h) = values n h) ∧
    withoutHopByHop (withoutHopByHop h) = withoutHopByHop h ∧
    ∀ h' : Headers, (∀ m, m ∈ written h ↔ m ∈ written h') →
      (∀ n, n ≠ .connection → values n h = values n h') →
      ∀ n, values n (withoutHopByHop h) = values n (withoutHopByHop h') :=
  ⟨withoutHopByHop_eq_filter h, fun _ => contains_withoutHopByHop_iff, fun _ => values_of_crosses,
    withoutHopByHop_idem h, fun _ => values_congr⟩

/-- A member that is no name, one in another case with a blank before it, none, and one that no field
has. -/
example : withoutHopByHop [(.connection, ⟨Text.utf8 "b@d, X-Trace,,gone", false, by decide⟩),
    (⟨"x-trace", rfl⟩, Outbound.anything), (.accept, Outbound.anything)] =
      [(.accept, Outbound.anything)] := by
  decide

end CredentialGateway.Headers
