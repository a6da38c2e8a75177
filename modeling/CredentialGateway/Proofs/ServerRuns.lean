import CredentialGateway.Proofs.Setup
import CredentialGateway.Server

/-!
# Runs of a server

A call goes one of a few ways from the bytes of its caller to its end.  A server takes the steps of
its calls in any order, and a step of one changes no other: whatever a run has been, each call is
where its own steps lead it, and what has reached the service for it is what they sent.

    step? c x = some p ↔ Leads c x p                                 (Call.step?_eq_some_iff)
    a course goes on with each step                                       (Call.Course.step)
    step? s x = some s' ↔ Becomes s x s'                                  (step?_eq_some_iff)
    run? (start ..) steps = some s → s is the sum of its calls            (tracks_of_run?)
-/

namespace CredentialGateway

/-! ## One call -/

namespace Call

/-- Where the bytes of a caller have led: the stage of the call, the steps that were taken, what of it
has reached the service, and what was reported. -/
inductive Course (g : Gateway) (credential : Credential) (bytes : Bytes) :
    Call → List Step → List Sent → List Log.Event → Prop
  | connected : Course g credential bytes (.connected bytes) [] [] []
  | gone (hread : reading bytes = .over none) :
      Course g credential bytes (.over none) [.read] [] []
  | unread {r : Response} (hread : reading bytes = .answered none r) :
      Course g credential bytes (.answered none r) [.read] [] []
  | read {q : Asked} (hread : reading bytes = .read q) :
      Course g credential bytes (.read q) [.read] [] []
  | refused {q : Asked} (hread : reading bytes = .read q)
      (hjudge : ∀ o, g.judge credential.header.1 q.incoming.head ≠ .forward o) :
      Course g credential bytes (answering q .notFound) [.read, .judge] []
        (judging g credential q).events
  | admitted {q : Asked} {o : Outbound} (hread : reading bytes = .read q)
      (hjudge : g.judge credential.header.1 q.incoming.head = .forward o) :
      Course g credential bytes (.admitted q o) [.read, .judge] [] credential.header.2
  | unsendable {q : Asked} {o : Outbound} (arrives : Bool) (hread : reading bytes = .read q)
      (hjudge : g.judge credential.header.1 q.incoming.head = .forward o)
      (hsend : o.isSendable = false) :
      Course g credential bytes (answering q .badGateway) [.read, .judge, .send arrives] []
        (credential.header.2 ++ [o.sending, o.failed .url])
  | lost {q : Asked} {o : Outbound} (hread : reading bytes = .read q)
      (hjudge : g.judge credential.header.1 q.incoming.head = .forward o)
      (hsend : o.isSendable = true) :
      Course g credential bytes (answering q (o.response .unreachable))
        [.read, .judge, .send false] [] (credential.header.2 ++ o.sending :: o.reported .unreachable)
  | waiting {q : Asked} {o : Outbound} (hread : reading bytes = .read q)
      (hjudge : g.judge credential.header.1 q.incoming.head = .forward o)
      (hsend : o.isSendable = true) :
      Course g credential bytes (.waiting q o) [.read, .judge, .send true] [o.sent q.body]
        (credential.header.2 ++ [o.sending])
  | replied {q : Asked} {o : Outbound} {r : Reply} (hread : reading bytes = .read q)
      (hjudge : g.judge credential.header.1 q.incoming.head = .forward o)
      (hsend : o.isSendable = true) (hr : r ≠ .unreachable) :
      Course g credential bytes (answering q (o.response r))
        [.read, .judge, .send true, .reply r] [o.sent q.body]
        (credential.header.2 ++ o.sending :: o.reported r)
  | delivered {q : Option Asked} {r out : Response} {steps : List Step} {sent : List Sent}
      {events : List Log.Event} {closing : Bool}
      (h : Course g credential bytes (.answered q r) steps sent events)
      (hout : delivered closing q r = some out) :
      Course g credential bytes (.over (some out)) (steps ++ [.deliver]) sent events
  | closed {q : Option Asked} {r : Response} {steps : List Step} {sent : List Sent}
      {events : List Log.Event} {closing : Bool}
      (h : Course g credential bytes (.answered q r) steps sent events)
      (hout : Call.delivered closing q r = none) :
      Course g credential bytes (.over none) (steps ++ [.close]) sent events

section Steps

variable {g : Gateway} {credential : Credential} {bytes : Bytes} {closing : Bool}

/-- Reading ends a call, answers it, or gives a request. -/
theorem reading_cases (bytes : Bytes) : reading bytes = .over none ∨
    (∃ r, reading bytes = .answered none r) ∨ ∃ q, reading bytes = .read q := by
  unfold reading
  cases Http.request bytes with
  | error e =>
    cases e with
    | incomplete => exact .inl rfl
    | refused r => exact .inr (.inl ⟨_, rfl⟩)
  | ok x => exact .inr (.inr ⟨_, rfl⟩)

/-- A request that is judged goes on to the service, or is answered. -/
theorem judging_cases (g : Gateway) (credential : Credential) (q : Asked) :
    (∃ o, g.judge credential.header.1 q.incoming.head = .forward o ∧
      judging g credential q = { call := .admitted q o, events := credential.header.2 }) ∨
    (∀ o, g.judge credential.header.1 q.incoming.head ≠ .forward o) ∧
      (judging g credential q).call = answering q .notFound ∧
      (judging g credential q).sent = none := by
  unfold judging
  cases hv : g.judge credential.header.1 q.incoming.head with
  | notServed => exact .inr (by simp [hv])
  | dotSegment => exact .inr (by simp [hv])
  | forward o => exact .inl ⟨o, rfl, by simp [hv]⟩

/-- What a step makes of a call. -/
inductive Leads (g : Gateway) (credential : Credential) (closing : Bool) :
    Call → Step → Progress → Prop
  | read (bytes : Bytes) :
      Leads g credential closing (.connected bytes) .read { call := reading bytes }
  | judge (q : Asked) : Leads g credential closing (.read q) .judge (judging g credential q)
  | send (q : Asked) (o : Outbound) (arrives : Bool) :
      Leads g credential closing (.admitted q o) (.send arrives) (sending q o arrives)
  | reply (q : Asked) (o : Outbound) {r : Reply} (hr : r ≠ .unreachable) :
      Leads g credential closing (.waiting q o) (.reply r)
        { call := answering q (o.response r), events := o.reported r }
  | deliver {q : Option Asked} {r out : Response} (hout : delivered closing q r = some out) :
      Leads g credential closing (.answered q r) .deliver { call := .over (some out) }
  | close {q : Option Asked} {r : Response} (hout : delivered closing q r = none) :
      Leads g credential closing (.answered q r) .close { call := .over none }

theorem step?_eq_some_iff {c : Call} {x : Step} {p : Progress} :
    c.step? g credential closing x = some p ↔ Leads g credential closing c x p := by
  constructor
  · intro h
    unfold step? at h
    split at h
    · cases h
      exact .read _
    · cases h
      exact .judge _
    · cases h
      exact .send _ _ _
    · split at h
      · cases h
      · rename_i hr
        cases h
        exact .reply _ _ hr
    · obtain ⟨out, hout, rfl⟩ := Option.map_eq_some_iff.1 h
      exact .deliver hout
    · split at h
      · rename_i hnone
        cases h
        exact .close (Option.isNone_iff_eq_none.1 hnone)
      · cases h
    · cases h
  · intro h
    cases h with
    | read | judge | send => rfl
    | reply _ _ hr => exact if_neg hr
    | deliver hout => exact congrArg (Option.map _) hout
    | close hout => exact if_pos (Option.isNone_iff_eq_none.2 hout)

/-- A step that fits leads on.  Which stage it fits says which courses led there. -/
theorem Course.step {c : Call} {steps : List Step} {sent : List Sent} {events : List Log.Event}
    {x : Step} {p : Progress} (h : Course g credential bytes c steps sent events)
    (hx : Leads g credential closing c x p) :
    Course g credential bytes p.call (steps ++ [x]) (sent ++ p.sent.toList)
      (events ++ p.events) := by
  cases hx with
  | read =>
    cases h with
    | connected =>
      rcases reading_cases bytes with hread | ⟨r, hread⟩ | ⟨q, hread⟩
      · simpa [hread] using Course.gone hread
      · simpa [hread] using Course.unread hread
      · simpa [hread] using Course.read hread
  | judge q =>
    cases h with
    | read hread =>
      rcases judging_cases g credential q with ⟨o, ho, hj⟩ | ⟨ho, hc, hs⟩
      · simpa [hj] using Course.admitted hread ho
      · simpa [hc, hs] using Course.refused hread ho
  | send q o arrives =>
    cases h with
    | admitted hread hjudge =>
      unfold sending
      cases hsend : o.isSendable with
      | false => simpa using Course.unsendable arrives hread hjudge hsend
      | true =>
        cases arrives with
        | false => simpa using Course.lost hread hjudge hsend
        | true => simpa using Course.waiting hread hjudge hsend
  | reply q o hr =>
    cases h with
    | waiting hread hjudge hsend => simpa using Course.replied hread hjudge hsend hr
  | deliver hout => simpa using h.delivered hout
  | close hout => simpa using h.closed hout

end Steps

end Call

namespace Server

/-! ## One step of a server -/

/-- What a step makes of a server. -/
inductive Becomes (s : Server) : Step → Server → Prop
  | trigger : Becomes s .trigger { s with signal := (s.signal.step .trigger).2 }
  | abandon : Becomes s .abandon { s with signal := (s.signal.step .dropCoordinator).2 }
  | look {found : StopSignal.Reception} (hfound : (s.signal.receive holder).1 = some found)
      (hstop : found ≠ .pending) : Becomes s .look s.stopListening
  | connect {id : Nat} {bytes : Bytes} (hserving : s.phase = .serving)
      (hnew : s.call? id = none) :
      Becomes s (.connect id bytes) { s with calls := s.calls ++ [(id, .connected bytes)] }
  | call {id : Nat} {x : Call.Step} {c : Call} {p : Call.Progress} (hcall : s.call? id = some c)
      (hstep : Call.Leads s.gateway s.credential (s.phase ≠ .serving) c x p) :
      Becomes s (.call id x) { s.put id p.call with
        reached := s.reached ++ (p.sent.map (id, ·)).toList, log := s.log ++ p.events }
  | finish (hdraining : s.phase = .draining) (hover : ∀ x ∈ s.calls, x.2.isOver = true) :
      Becomes s .finish { s with phase := .returned, log := s.log ++ [.stopped] }

theorem step?_eq_some_iff {s s' : Server} {x : Step} : s.step? x = some s' ↔ Becomes s x s' := by
  constructor
  · intro h
    cases x with
    | trigger =>
      cases h
      exact .trigger
    | abandon =>
      cases h
      exact .abandon
    | look =>
      cases hfound : (s.signal.receive holder).1 with
      | none => simp [step?, hfound] at h
      | some found =>
        by_cases hstop : found = .pending
        · simp [step?, hfound, hstop] at h
        · simp only [step?, hfound, Option.some.injEq] at h
          exact h ▸ .look hfound hstop
    | connect id bytes =>
      simp only [step?, Bool.and_eq_true, decide_eq_true_eq, Option.isNone_iff_eq_none] at h
      split at h
      · rename_i hnew
        cases h
        exact .connect hnew.1 hnew.2
      · cases h
    | call id x =>
      obtain ⟨c, hc, h⟩ := Option.bind_eq_some_iff.1 h
      obtain ⟨p, hp, h⟩ := Option.bind_eq_some_iff.1 h
      cases h
      exact .call hc (Call.step?_eq_some_iff.1 hp)
    | finish =>
      simp only [step?, Bool.and_eq_true, decide_eq_true_eq, List.all_eq_true] at h
      split at h
      · rename_i hover
        cases h
        exact .finish hover.1 hover.2
      · cases h
  · intro h
    cases h with
    | trigger => rfl
    | abandon => rfl
    | look hfound hstop => simp [step?, hfound]
    | connect hserving hnew => simp [step?, hserving, hnew]
    | call hcall hstep =>
      exact Option.bind_eq_some_iff.2
        ⟨_, hcall, Option.bind_eq_some_iff.2 ⟨_, Call.step?_eq_some_iff.2 hstep, rfl⟩⟩
    | finish hdraining hover => simpa [step?, hdraining] using hover

/-! ## The calls of a server -/

/-- A call that is put in place of another has no effect on the rest. -/
theorem call?_put (s : Server) (id j : Nat) (c : Call) :
    (s.put id c).call? j = if j = id then (s.call? j).map fun _ => c else s.call? j := by
  unfold call? put
  induction s.calls with
  | nil => simp
  | cons x calls ih =>
    obtain ⟨i, old⟩ := x
    rw [List.map_cons]
    by_cases hj : j = i
    · subst hj
      by_cases hi : j = id <;> simp [hi]
    · have hne : (j == i) = false := by simpa using hj
      by_cases hi : i = id
      · simp only [hi, if_true] at hne ⊢
        rw [List.lookup_cons, List.lookup_cons, hne]
        exact ih
      · simp only [hi, if_false]
        rw [List.lookup_cons, List.lookup_cons, hne]
        exact ih

/-- A call that goes on is where it has gone, and every other where it was. -/
theorem call?_put_of_eq_some {s : Server} {id : Nat} {c : Call} (hcall : s.call? id = some c)
    (d : Call) (j : Nat) : (s.put id d).call? j = if j = id then some d else s.call? j := by
  rw [call?_put]
  split
  · rename_i hj
    rw [hj, hcall, Option.map_some]
  · rfl

/-- A call that is new comes after those that were there. -/
theorem call?_connect (s : Server) (id : Nat) (bytes : Bytes) (j : Nat) :
    Server.call? { s with calls := s.calls ++ [(id, .connected bytes)] } j =
      (s.call? j).or (if j = id then some (.connected bytes) else none) := by
  rw [call?, List.lookup_append, List.lookup_cons, call?]
  by_cases hj : j = id
  · simp [hj]
  · have hne : (j == id) = false := by simpa using hj
    rw [hne, if_neg hj, List.lookup_nil]

/-- The steps of one call, out of those of the server. -/
def own (id : Nat) (steps : List Step) : List Call.Step :=
  steps.filterMap fun
    | .call j x => if j = id then some x else none
    | _ => none

/-- What has reached the service for a call. -/
def reachedFor (s : Server) (id : Nat) : List Sent := (s.reached.filter (·.1 = id)).map (·.2)

theorem own_append_call (id j : Nat) (steps : List Step) (x : Call.Step) :
    own id (steps ++ [.call j x]) = own id steps ++ if j = id then [x] else [] := by
  rw [own, List.filterMap_append]
  congr 1
  by_cases hj : j = id <;> simp [hj]

/-- A step that is none of a call is none of its own. -/
theorem own_append_of_ne (id : Nat) (steps : List Step) {x : Step} (hx : ∀ y, x ≠ .call id y) :
    own id (steps ++ [x]) = own id steps := by
  cases x with
  | call j y =>
    rw [own_append_call, if_neg, List.append_nil]
    rintro rfl
    exact hx y rfl
  | trigger | abandon | look | connect | finish =>
    rw [own, List.filterMap_append]
    exact List.append_nil _

/-! ## Runs -/

theorem run?_append {s t u : Server} {steps more : List Step} (h : s.run? steps = some t)
    (h' : t.run? more = some u) : s.run? (steps ++ more) = some u := by
  unfold run? at h h' ⊢
  rw [List.foldlM_append, h]
  exact h'

/-- What a run has come to is what each step keeps. -/
theorem run?_invariant {P : List Step → Server → Prop} {s s' : Server} {steps : List Step}
    (hstart : P [] s)
    (hstep : ∀ done s x s', P done s → Becomes s x s' → P (done ++ [x]) s')
    (h : s.run? steps = some s') : P steps s' := by
  suffices hrun : ∀ (rest done : List Step) (s : Server), P done s → s.run? rest = some s' →
      P (done ++ rest) s' from hrun steps [] s hstart h
  intro rest
  induction rest with
  | nil =>
    intro done s hs h
    cases h
    rwa [List.append_nil]
  | cons x rest ih =>
    intro done s hs h
    obtain ⟨next, hx, h⟩ := Option.bind_eq_some_iff.1 h
    have hnext := hstep done s x next hs (step?_eq_some_iff.1 hx)
    have := ih (done ++ [x]) next hnext h
    rwa [List.append_assoc] at this

/-- The server is the sum of its calls: each is where its own steps lead it, and what has reached
the service is what they sent. -/
structure Tracks (g : Gateway) (credential : Credential) (steps : List Step) (s : Server) :
    Prop where
  gateway_eq : s.gateway = g
  credential_eq : s.credential = credential
  idle : ∀ id, s.call? id = none →
    (∀ bytes, .connect id bytes ∉ steps) ∧ own id steps = [] ∧ s.reachedFor id = []
  course : ∀ id c, s.call? id = some c → ∃ bytes events,
    (∀ b, .connect id b ∈ steps ↔ b = bytes) ∧
      Call.Course g credential bytes c (own id steps) (s.reachedFor id) events

section Tracks

variable {g : Gateway} {credential : Credential} {steps : List Step} {s s' : Server}

theorem tracks_start (g : Gateway) (credential : Credential) (socket : Text) (harbour : Harbour) :
    Tracks g credential [] (start g credential socket harbour) :=
  ⟨rfl, rfl, fun _ _ => ⟨by simp, rfl, rfl⟩, fun _ _ h => by cases h⟩

/-- A step that is none of a call leaves the calls as they are. -/
theorem Tracks.quiet (h : Tracks g credential steps s) {x : Step}
    (hcall : ∀ id y, x ≠ .call id y) (hconnect : ∀ id bytes, x ≠ .connect id bytes)
    (hgateway : s'.gateway = s.gateway) (hcredential : s'.credential = s.credential)
    (hcalls : s'.calls = s.calls) (hreached : s'.reached = s.reached) :
    Tracks g credential (steps ++ [x]) s' := by
  have hown (id : Nat) := own_append_of_ne id steps (hcall id)
  have hmem (id : Nat) (bytes : Bytes) :
      .connect id bytes ∈ steps ++ [x] ↔ .connect id bytes ∈ steps := by
    simp [(hconnect id bytes).symm]
  have hfind (id : Nat) : s'.call? id = s.call? id := by rw [call?, call?, hcalls]
  have hfor (id : Nat) : s'.reachedFor id = s.reachedFor id := by
    rw [reachedFor, reachedFor, hreached]
  refine ⟨hgateway.trans h.gateway_eq, hcredential.trans h.credential_eq, ?_, ?_⟩
  · intro id hid
    rw [hfind] at hid
    simpa [hmem, hown, hfor] using h.idle id hid
  · intro id c hc
    rw [hfind] at hc
    simpa [hmem, hown, hfor] using h.course id c hc

/-- A new call is where its bytes have just arrived. -/
theorem Tracks.connect (h : Tracks g credential steps s) {id : Nat} {bytes : Bytes}
    (hnew : s.call? id = none) : Tracks g credential (steps ++ [.connect id bytes])
      { s with calls := s.calls ++ [(id, .connected bytes)] } := by
  have hown (j : Nat) := own_append_of_ne j steps (x := .connect id bytes) (by simp)
  refine ⟨h.gateway_eq, h.credential_eq, ?_, ?_⟩
  · intro j hj
    rw [call?_connect, Option.or_eq_none_iff] at hj
    obtain ⟨hnone, hj⟩ := hj
    split at hj
    · cases hj
    · rename_i hne
      have hidle := h.idle j hnone
      refine ⟨fun b hb => ?_, (hown j).trans hidle.2.1, hidle.2.2⟩
      rcases List.mem_append.1 hb with hb | hb
      · exact hidle.1 b hb
      · simp only [List.mem_singleton, Step.connect.injEq] at hb
        exact hne hb.1
  · intro j c hc
    rw [call?_connect, Option.or_eq_some_iff] at hc
    rw [hown]
    rcases hc with hc | ⟨hnone, hc⟩
    · -- a call that was there before
      obtain ⟨b, events, hb, hcourse⟩ := h.course j c hc
      have hne : j ≠ id := fun hj => by simp [hj, hnew] at hc
      refine ⟨b, events, fun b' => ?_, hcourse⟩
      simp [hne, hb]
    · split at hc
      · rename_i hj
        subst hj
        cases hc
        obtain ⟨hbytes, hsteps, hsent⟩ := h.idle j hnew
        refine ⟨bytes, [], fun b => by simp [hbytes], ?_⟩
        rw [hsteps]
        exact hsent ▸ .connected
      · cases hc

/-- A step of a call leads it on, and no other. -/
theorem Tracks.call (h : Tracks g credential steps s) {id : Nat} {x : Call.Step} {c : Call}
    {p : Call.Progress} (hcall : s.call? id = some c)
    (hstep : Call.Leads s.gateway s.credential (s.phase ≠ .serving) c x p) :
    Tracks g credential (steps ++ [.call id x]) { s.put id p.call with
      reached := s.reached ++ (p.sent.map (id, ·)).toList, log := s.log ++ p.events } := by
  have hmem (j : Nat) (bytes : Bytes) :
      .connect j bytes ∈ steps ++ [.call id x] ↔ .connect j bytes ∈ steps := by simp
  have hfind (j : Nat) : Server.call? { s.put id p.call with
      reached := s.reached ++ (p.sent.map (id, ·)).toList, log := s.log ++ p.events } j =
      if j = id then some p.call else s.call? j := call?_put_of_eq_some hcall p.call j
  have hfor (j : Nat) : Server.reachedFor { s.put id p.call with
      reached := s.reached ++ (p.sent.map (id, ·)).toList, log := s.log ++ p.events } j =
      s.reachedFor j ++ if id = j then p.sent.toList else [] := by
    rw [reachedFor, List.filter_append, List.map_append]
    congr 1
    cases p.sent with
    | none => simp
    | some sent => by_cases hj : id = j <;> simp [hj]
  refine ⟨h.gateway_eq, h.credential_eq, ?_, ?_⟩
  · intro j hj
    rw [hfind] at hj
    split at hj
    · cases hj
    · rename_i hne
      have hidle := h.idle j hj
      simp only [hmem, own_append_call, hfor, if_neg (Ne.symm hne), List.append_nil]
      exact hidle
  · intro j d hd
    simp only [hmem, own_append_call, hfor]
    rw [hfind] at hd
    split at hd
    · rename_i hj
      subst hj
      cases hd
      obtain ⟨bytes, events, hbytes, hcourse⟩ := h.course j c hcall
      rw [h.gateway_eq, h.credential_eq] at hstep
      refine ⟨bytes, events ++ p.events, hbytes, ?_⟩
      simpa using hcourse.step hstep
    · rename_i hne
      simpa [Ne.symm hne] using h.course j d hd

/-- A caller that has connected has a call. -/
theorem Tracks.course_of_connect (h : Tracks g credential steps s) {id : Nat} {bytes : Bytes}
    (hconnect : .connect id bytes ∈ steps) : ∃ c events, s.call? id = some c ∧
      Call.Course g credential bytes c (own id steps) (s.reachedFor id) events := by
  cases hc : s.call? id with
  | none => exact absurd hconnect ((h.idle id hc).1 bytes)
  | some c =>
    obtain ⟨b, events, hb, hcourse⟩ := h.course id c hc
    obtain rfl := (hb bytes).1 hconnect
    exact ⟨c, events, rfl, hcourse⟩

/-- Each step keeps the server the sum of its calls. -/
theorem Tracks.step (h : Tracks g credential steps s) {x : Step} (hx : Becomes s x s') :
    Tracks g credential (steps ++ [x]) s' := by
  cases hx with
  | trigger => exact h.quiet (by simp) (by simp) rfl rfl rfl rfl
  | abandon => exact h.quiet (by simp) (by simp) rfl rfl rfl rfl
  | look => exact h.quiet (by simp) (by simp) rfl rfl rfl rfl
  | connect hserving hnew => exact h.connect hnew
  | call hcall hstep => exact h.call hcall hstep
  | finish => exact h.quiet (by simp) (by simp) rfl rfl rfl rfl

/-- Whatever a server has been through, it is the sum of its calls. -/
theorem tracks_of_run? {socket : Text} {harbour : Harbour}
    (h : (start g credential socket harbour).run? steps = some s) :
    Tracks g credential steps s :=
  run?_invariant (tracks_start g credential socket harbour) (fun _ _ _ _ hs hx => hs.step hx) h

end Tracks

end Server

end CredentialGateway
