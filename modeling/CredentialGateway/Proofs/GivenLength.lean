import CredentialGateway.Http.Request
import CredentialGateway.Proofs.HopFilter

/-!
# Lengths among headers

Headers give a length if their values of `Content-Length` are one number, however often it is said.
The headers that are kept of a request say one length at most, the one that frames the body if any
does; on to the next hop it goes unless it is nominated.

    givenLength? h = some n ↔ it is said, and nothing else      (Http.givenLength?_eq_some_iff)
    one length is kept at most, the one that frames the body        (Http.hasLength_of_frame)
    it crosses unless it is nominated           (Headers.HasLength.withoutHopByHop)
-/

namespace CredentialGateway

namespace Headers

/-- The headers say this length once, or none. -/
def HasLength (h : Headers) (l : Option Nat) : Prop :=
  (values .contentLength h).map Http.length? = (l.map some).toList

instance (h : Headers) (l : Option Nat) : Decidable (h.HasLength l) :=
  inferInstanceAs (Decidable (_ = _))

theorem HasLength.withoutHopByHop {h : Headers} {l : Option Nat} (hl : h.HasLength l) :
    h.withoutHopByHop.HasLength (if .contentLength ∈ nominated h then none else l) := by
  have hvalues := values_withoutHopByHop .contentLength h
  have halways : HeaderName.contentLength ∉ always := by decide
  simp only [List.mem_append, halways, or_false] at hvalues
  unfold HasLength
  rw [hvalues]
  split
  · rfl
  · exact hl

/-- One length is the one that all values agree on. -/
theorem HasLength.givenLength? {h : Headers} {l : Option Nat} (hl : h.HasLength l) :
    Http.givenLength? h = l := by
  unfold Http.givenLength?
  rw [hl]
  cases l <;> rfl

theorem HasLength.length_le {h : Headers} {l : Option Nat} (hl : h.HasLength l) :
    (values .contentLength h).length ≤ 1 := by
  have hlength := congrArg List.length hl
  rw [List.length_map] at hlength
  rw [hlength]
  cases l <;> simp

end Headers

namespace Http

/-! ## Lengths that agree -/

theorem givenLength?_congr {h h' : Headers}
    (hvalues : Headers.values .contentLength h = Headers.values .contentLength h') :
    givenLength? h = givenLength? h' := by
  rw [givenLength?, givenLength?, hvalues]

theorem givenLength?_eq_some_iff {h : Headers} {n : Nat} : givenLength? h = some n ↔
    Headers.values .contentLength h ≠ [] ∧
      ∀ v ∈ Headers.values .contentLength h, length? v = some n := by
  unfold givenLength?
  cases Headers.values .contentLength h with
  | nil => simp
  | cons v vs =>
    cases hv : length? v with
    | none => simp [hv]
    | some m =>
      simp only [List.map_cons, hv, List.all_map, List.all_eq_true, Function.comp,
        decide_eq_true_eq]
      split
      · rename_i hall
        constructor
        · intro h
          cases h
          simpa [hv] using hall
        · rintro ⟨-, h⟩
          simpa [hv] using h v List.mem_cons_self
      · rename_i hall
        refine iff_of_false (by simp) fun ⟨_, h⟩ => hall fun w hw => ?_
        have hm : some m = some n := hv.symm.trans (h v List.mem_cons_self)
        rw [h w (List.mem_cons_of_mem v hw), hm]

/-! ## Lengths that are kept -/

/-- What is kept says the length that was read, once. -/
def FramingScan.KeepsLength (s : FramingScan) : Prop := s.kept.HasLength s.length

theorem FramingScan.keepsLength_start (keepAlive : Bool) : KeepsLength { keepAlive } := rfl

theorem FramingScan.keepsLength_next {newer : Bool} {s s' : FramingScan}
    {field : HeaderName × HeaderValue} (hs : s.KeepsLength) (h : s.next newer field = .ok s') :
    s'.KeepsLength := by
  obtain ⟨name, v⟩ := field
  have hother (hname : name ≠ .contentLength) :
      Headers.values .contentLength (s.kept ++ [(name, v)]) =
        Headers.values .contentLength s.kept :=
    (Headers.values_append .contentLength name v s.kept).trans (by simp [hname])
  unfold next at h
  simp only at h
  split at h
  · rename_i hname
    split at h
    · cases h
      exact (congrArg _ (hother (by rw [hname]; decide))).trans hs
    · cases h
  · split at h
    · rename_i hname
      split at h
      · cases h
        exact hs
      · split at h
        · cases h
        · -- a length again
          split at h
          · cases h
            exact hs
          · cases h
        · -- the first one
          rename_i n hlength hnone
          split at h
          · cases h
            have hvalues := Headers.values_append .contentLength name v s.kept
            rw [if_pos hname] at hvalues
            unfold Headers.append at hvalues
            have hs : (Headers.values .contentLength s.kept).map length? = [] := by
              simpa [KeepsLength, Headers.HasLength, hnone] using hs
            simp only [KeepsLength, Headers.HasLength, hvalues, List.map_append, hs]
            simp [hlength]
          · cases h
    · rename_i hname
      split at h
      · cases h
        exact (congrArg _ (hother hname)).trans hs
      · cases h
        exact (congrArg _ (hother hname)).trans hs

theorem FramingScan.keepsLength_foldlM {newer : Bool} {fields : Headers} {s s' : FramingScan}
    (hs : s.KeepsLength) (h : fields.foldlM (FramingScan.next newer) s = .ok s') :
    s'.KeepsLength := by
  induction fields generalizing s with
  | nil =>
    cases h
    exact hs
  | cons field fields ih =>
    obtain ⟨next, hnext, h⟩ := bind_eq_ok_iff.1 h
    exact ih (keepsLength_next hs hnext) h

/-- One length is kept at most, and it is the one that frames the body, if any does. -/
theorem hasLength_of_frame {newer keepAlive : Bool} {fields kept : Headers} {framing : Framing}
    (h : frame newer fields = .ok (framing, kept, keepAlive)) : ∃ l,
      kept.HasLength l ∧ ∀ n, framing = .length n → n = l.getD 0 := by
  obtain ⟨s, hs, h⟩ := bind_eq_ok_iff.1 h
  have hkeeps := FramingScan.keepsLength_foldlM (FramingScan.keepsLength_start newer) hs
  split at h
  · cases pure_eq_ok_iff.1 h
    exact ⟨s.length, hkeeps, fun n hn => by cases hn⟩
  · exact absurd h throw_ne_ok
  · cases pure_eq_ok_iff.1 h
    exact ⟨s.length, hkeeps, fun n hn => by cases hn; rfl⟩

/-- The headers of a request are those that its framing has kept. -/
theorem frame_of_request {bytes rest : Bytes} {incoming : Incoming}
    (h : request bytes = .ok (incoming, rest)) : ∃ newer fields keepAlive,
      frame newer fields = .ok (incoming.framing, incoming.head.headers, keepAlive) := by
  unfold request at h
  obtain ⟨bs, -, h⟩ := bind_eq_ok_iff.1 h
  obtain ⟨⟨method, bs⟩, -, h⟩ := bind_eq_ok_iff.1 h
  obtain ⟨⟨raw, bs⟩, -, h⟩ := bind_eq_ok_iff.1 h
  dsimp only at h
  split at h
  · obtain ⟨_, hmalformed, -⟩ := bind_eq_ok_iff.1 h
    cases hmalformed
  · obtain ⟨⟨newer, bs⟩, -, h⟩ := bind_eq_ok_iff.1 h
    obtain ⟨bs, -, h⟩ := bind_eq_ok_iff.1 h
    obtain ⟨⟨fields, bs⟩, -, h⟩ := bind_eq_ok_iff.1 h
    obtain ⟨uri, -, h⟩ := bind_eq_ok_iff.1 h
    obtain ⟨⟨framing, kept, keepAlive⟩, hframe, h⟩ := bind_eq_ok_iff.1 h
    cases pure_eq_ok_iff.1 h
    exact ⟨newer, fields, keepAlive, mapError_eq_ok_iff.1 hframe⟩

end Http

end CredentialGateway
