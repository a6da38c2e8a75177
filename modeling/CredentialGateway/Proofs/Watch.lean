import CredentialGateway.Proofs.ServerRuns

/-!
# The server on watch

A server watches the stop signal from its start.  It finds something when the signal has been given
or can come no more, and only then, and it looks no more once it has found something.  Calls have
numbers of their own, none is left when the server has returned, and nothing that happens to a
server touches the file tree.

    what every run keeps                                              (Server.watches_of_run?)
    the server can stop ↔ it has been told to, in either way   (Server.Watches.isSome_look_iff)
-/

namespace CredentialGateway

/-! ## The signal -/

namespace StopSignal

theorem seen?_drop (s : StopSignal) (name : Text) : (s.drop name).seen? name = none := by
  unfold seen? drop
  induction s.receivers with
  | nil => rfl
  | cons r receivers ih =>
    obtain ⟨other, seen⟩ := r
    by_cases hr : other = name
    · rw [List.filter_cons_of_neg (by simp [hr])]
      exact ih
    · have hne : (name == other) = false := by simpa using Ne.symm hr
      rw [List.filter_cons_of_pos (by simp [hr]), List.lookup_cons, hne]
      exact ih

/-- The coordinator's steps leave the receivers as they are. -/
theorem seen?_coordinate (s next : StopSignal) (h : next.receivers = s.receivers) (name : Text) :
    (s.coordinate next).2.seen? name = s.seen? name := by
  unfold coordinate
  split
  · exact congrArg (List.lookup name) h
  · rfl

/-- No signal has been given, and one may still come. -/
def IsUntouched (s : StopSignal) : Prop := s.sent = 0 ∧ s.coordinated = true

theorem not_isUntouched_trigger (s : StopSignal) : ¬ (s.step .trigger).2.IsUntouched := by
  rintro ⟨hsent, hcoordinated⟩
  simp only [step, coordinate] at hsent hcoordinated
  split at hsent
  · cases hsent
  · rename_i h
    rw [if_neg h] at hcoordinated
    exact h hcoordinated

theorem not_isUntouched_close (s : StopSignal) : ¬ (s.step .dropCoordinator).2.IsUntouched := by
  rintro ⟨-, hcoordinated⟩
  simp only [step, coordinate] at hcoordinated
  split at hcoordinated
  · cases hcoordinated
  · rename_i h
    exact h hcoordinated

/-- A receiver from the start finds nothing as long as the signal is untouched, and only then. -/
theorem receive_eq_pending_iff {s : StopSignal} {name : Text} (h : s.seen? name = some 0) :
    (s.receive name).1 = some .pending ↔ s.IsUntouched := by
  unfold receive IsUntouched look
  rw [h]
  by_cases hsent : s.sent = 0
  · by_cases hc : s.coordinated = true <;> simp [hsent, hc]
  · by_cases hone : 1 = s.sent <;> simp [hsent, hone]

end StopSignal

namespace Call

/-- No step is left for a call that is over. -/
theorem not_leads_of_isOver {g : Gateway} {credential : Credential} {closing : Bool} {c : Call}
    {x : Step} {p : Progress} (h : c.isOver = true) : ¬ Leads g credential closing c x p := by
  intro hx
  cases hx <;> cases h

end Call

namespace Server

/-! ## The calls by their numbers -/

theorem mem_calls_of_call? {s : Server} {id : Nat} {c : Call} (h : s.call? id = some c) :
    (id, c) ∈ s.calls := by
  obtain ⟨before, after, hcalls, -⟩ := List.lookup_eq_some_iff.1 h
  simp [hcalls]

/-- Where no two calls have one number, a call is found by its own. -/
theorem call?_of_mem {s : Server} (hdistinct : (s.calls.map (·.1)).Nodup) {id : Nat} {c : Call}
    (h : (id, c) ∈ s.calls) : s.call? id = some c := by
  obtain ⟨before, after, hcalls⟩ := List.append_of_mem h
  rw [hcalls, List.map_append, List.map_cons, List.nodup_append] at hdistinct
  refine List.lookup_eq_some_iff.2 ⟨before, after, hcalls, fun x hx => ?_⟩
  have hne := hdistinct.2.2 x.1 (List.mem_map_of_mem hx) id List.mem_cons_self
  simpa using Ne.symm hne

theorem map_fst_calls_put (s : Server) (id : Nat) (c : Call) :
    (s.put id c).calls.map (·.1) = s.calls.map (·.1) := by
  unfold put
  rw [List.map_map]
  refine List.map_congr_left fun x _ => ?_
  simp only [Function.comp]
  split <;> rfl

/-! ## What every run keeps -/

/-- The server has been on watch since its start. -/
structure Watches (harbour : Harbour) (steps : List Step) (s : Server) : Prop where
  tree_eq : s.harbour.tree = harbour.tree
  home_eq : s.harbour.home = harbour.home
  untouched : s.signal.IsUntouched ↔ .trigger ∉ steps ∧ .abandon ∉ steps
  serving : s.phase = .serving → s.signal.seen? holder = some 0
  stopped : s.phase ≠ .serving → (.trigger ∈ steps ∨ .abandon ∈ steps) ∧
    s.signal.seen? holder = none ∧ ∀ e, (holder, e) ∉ s.harbour.listeners
  returned : s.phase = .returned → ∀ x ∈ s.calls, x.2.isOver = true
  distinct : (s.calls.map (·.1)).Nodup

section Watches

variable {harbour : Harbour} {steps : List Step} {s s' : Server}

theorem watches_start (g : Gateway) (credential : Credential) (socket : Text)
    (harbour : Harbour) : Watches harbour [] (start g credential socket harbour) where
  tree_eq := rfl
  home_eq := rfl
  untouched := by simp [start, StopSignal.IsUntouched, StopSignal.subscribe, StopSignal.note,
    StopSignal.drop]
  serving _ := rfl
  stopped h := absurd rfl h
  returned h := by cases h
  distinct := List.nodup_nil

/-- What goes on in the calls is nothing to the watch. -/
theorem Watches.quiet (h : Watches harbour steps s) {x : Step} (htrigger : x ≠ .trigger)
    (habandon : x ≠ .abandon) (hharbour : s'.harbour = s.harbour) (hsignal : s'.signal = s.signal)
    (hphase : s'.phase = s.phase)
    (hover : s.phase = .returned → ∀ x ∈ s'.calls, x.2.isOver = true)
    (hdistinct : (s'.calls.map (·.1)).Nodup) : Watches harbour (steps ++ [x]) s' := by
  constructor
  · rw [hharbour, h.tree_eq]
  · rw [hharbour, h.home_eq]
  · rw [hsignal, h.untouched]
    simp [htrigger.symm, habandon.symm]
  · rw [hphase, hsignal]
    exact h.serving
  · rw [hphase, hharbour, hsignal]
    simpa [htrigger.symm, habandon.symm] using h.stopped
  · rwa [hphase]
  · exact hdistinct

/-- What the coordinator does is on record. -/
theorem Watches.signal (h : Watches harbour steps s) {x : Step} (hx : x = .trigger ∨ x = .abandon)
    {signal : StopSignal} (hseen : signal.seen? holder = s.signal.seen? holder)
    (htouched : ¬ signal.IsUntouched) :
    Watches harbour (steps ++ [x]) { s with signal } where
  tree_eq := h.tree_eq
  home_eq := h.home_eq
  untouched := by
    refine iff_of_false htouched ?_
    rcases hx with rfl | rfl <;> simp
  serving hserving := hseen.trans (h.serving hserving)
  stopped hstopped := by
    obtain ⟨hgiven, hnone, hlisteners⟩ := h.stopped hstopped
    refine ⟨?_, hseen.trans hnone, hlisteners⟩
    rcases hgiven with hgiven | hgiven
    · exact .inl (List.mem_append_left _ hgiven)
    · exact .inr (List.mem_append_left _ hgiven)
  returned := h.returned
  distinct := h.distinct

/-- A server that looks and finds something has been told, and so has stopped. -/
theorem Watches.look (h : Watches harbour steps s) {found : StopSignal.Reception}
    (hfound : (s.signal.receive holder).1 = some found) (hstop : found ≠ .pending) :
    Watches harbour (steps ++ [.look]) s.stopListening := by
  have hserving : s.phase = .serving := by
    by_contra hphase
    rw [StopSignal.receive, (h.stopped hphase).2.1] at hfound
    cases hfound
  have htouched : ¬ s.signal.IsUntouched := fun huntouched => by
    have hpending := (StopSignal.receive_eq_pending_iff (h.serving hserving)).2 huntouched
    exact hstop (Option.some.inj (hfound.symm.trans hpending))
  have hgiven : .trigger ∈ steps ∨ .abandon ∈ steps := by
    rw [h.untouched] at htouched
    tauto
  constructor
  · exact h.tree_eq
  · exact h.home_eq
  · exact h.untouched.trans (by simp)
  · intro hphase
    cases hphase
  · refine fun _ => ⟨by simpa using hgiven, StopSignal.seen?_drop s.signal holder, fun e he => ?_⟩
    simp [stopListening, Harbour.close] at he
  · intro hphase
    cases hphase
  · exact h.distinct

/-- A call that is new has a number of its own. -/
theorem Watches.connect (h : Watches harbour steps s) {id : Nat} {bytes : Bytes}
    (hserving : s.phase = .serving) (hnew : s.call? id = none) :
    Watches harbour (steps ++ [.connect id bytes])
      { s with calls := s.calls ++ [(id, .connected bytes)] } := by
  refine h.quiet (by simp) (by simp) rfl rfl rfl (fun hphase => ?_) ?_
  · cases hserving.symm.trans hphase
  · rw [List.map_append, List.nodup_append]
    refine ⟨h.distinct, List.nodup_singleton _, fun j hj k hk => ?_⟩
    obtain ⟨⟨j, c⟩, hc, rfl⟩ := List.mem_map.1 hj
    obtain rfl : k = id := by simpa using hk
    rintro rfl
    simpa using List.lookup_eq_none_iff.1 hnew _ hc

/-- Each step keeps the watch. -/
theorem Watches.step (h : Watches harbour steps s) {x : Step} (hx : Becomes s x s') :
    Watches harbour (steps ++ [x]) s' := by
  cases hx with
  | trigger =>
    exact h.signal (.inl rfl) (s.signal.seen?_coordinate s.signal.trigger rfl holder)
      s.signal.not_isUntouched_trigger
  | abandon =>
    exact h.signal (.inr rfl) (s.signal.seen?_coordinate s.signal.close rfl holder)
      s.signal.not_isUntouched_close
  | look hfound hstop => exact h.look hfound hstop
  | connect hserving hnew => exact h.connect hserving hnew
  | @call id x c p hcall hstep =>
    refine h.quiet (by simp) (by simp) rfl rfl rfl (fun hphase => ?_) ?_
    · have hover : c.isOver = true := h.returned hphase _ (mem_calls_of_call? hcall)
      exact absurd hstep (Call.not_leads_of_isOver hover)
    · exact (map_fst_calls_put s id p.call).symm ▸ h.distinct
  | finish hdraining hover =>
    have hphase : s.phase ≠ .serving := by simp [hdraining]
    obtain ⟨hgiven, hnone, hlisteners⟩ := h.stopped hphase
    constructor
    · exact h.tree_eq
    · exact h.home_eq
    · exact h.untouched.trans (by simp)
    · intro hphase
      cases hphase
    · exact fun _ => ⟨by simpa using hgiven, hnone, hlisteners⟩
    · exact fun _ => hover
    · exact h.distinct

/-- Whatever a server has been through, it has been on watch. -/
theorem watches_of_run? {g : Gateway} {credential : Credential} {socket : Text}
    (h : (start g credential socket harbour).run? steps = some s) : Watches harbour steps s :=
  run?_invariant (P := Watches harbour) (watches_start g credential socket harbour)
    (fun _ _ _ _ hs hx => hs.step hx) h

/-- The server finds something when it has been told to stop, in either way. -/
theorem Watches.isSome_look_iff (h : Watches harbour steps s) (hserving : s.phase = .serving) :
    (s.step? .look).isSome = true ↔ .trigger ∈ steps ∨ .abandon ∈ steps := by
  have hpending := StopSignal.receive_eq_pending_iff (h.serving hserving)
  have htold : .trigger ∈ steps ∨ .abandon ∈ steps ↔ ¬ s.signal.IsUntouched := by
    rw [h.untouched]
    tauto
  rw [htold, ← hpending, Option.isSome_iff_exists]
  simp only [step?_eq_some_iff]
  constructor
  · rintro ⟨t, ht⟩ hnothing
    cases ht with
    | look hfound hstop => exact hstop (Option.some.inj (hfound.symm.trans hnothing))
  · intro hsomething
    obtain ⟨found, hfound⟩ : ∃ found, (s.signal.receive holder).1 = some found := by
      unfold StopSignal.receive
      rw [h.serving hserving]
      exact ⟨_, rfl⟩
    exact ⟨_, .look hfound fun hpending => hsomething (hpending ▸ hfound)⟩

end Watches

end Server

end CredentialGateway
