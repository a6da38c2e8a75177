import CredentialGateway.Proofs.CallOutcome
import CredentialGateway.Proofs.SentRequest

/-!
# Calls do not meet

A server takes the steps of its calls in any order.  What it has of one call is a server with that
call only, and it gets there by the steps that concern the call, whatever lies between them.  So no
call can hold another up, and each comes to what it would come to alone.

    s becomes s' by a step of another call → the same is there of this one        (Becomes.only_eq)
    steps can happen ↔ for each call those that concern it can happen             (isSome_run?_iff)
    what arrives of a call is its own request, part by part  (Call.Course.exists_isMadeOf)
    each caller gets one response, that of its request by itself          (Gateway.isolatesCalls)
-/

namespace CredentialGateway

/-! ## What a server has of one call -/

namespace Server

/-- The step is one of the call, or of the server as a whole. -/
def Step.concerns (id : Nat) : Step → Bool
  | .connect j _ | .call j _ => j = id
  | .trigger | .abandon | .look | .finish => true

/-- The server with this call only, and with this log. -/
def only (s : Server) (id : Nat) (log : List Log.Event) : Server :=
  { s with calls := s.calls.filter (·.1 = id), reached := s.reached.filter (·.1 = id), log }

section Only

variable {s s' : Server} {id : Nat} {x : Step}

theorem call?_only (s : Server) (id : Nat) (log : List Log.Event) :
    (s.only id log).call? id = s.call? id := by
  unfold call? only
  induction s.calls with
  | nil => rfl
  | cons x calls ih =>
    obtain ⟨j, c⟩ := x
    by_cases hj : j = id
    · subst hj
      simp
    · have hne : (id == j) = false := by simpa using Ne.symm hj
      rw [List.filter_cons_of_neg (by simpa using hj), List.lookup_cons, hne]
      exact ih

/-- A call that is put in place of another is so for what the server has of one call. -/
theorem only_put (s : Server) (id j : Nat) (c : Call) (log : List Log.Event) :
    (s.put j c).only id log = (s.only id log).put j c := by
  unfold only put
  rw [List.filter_map]
  congr 2
  refine List.filter_congr fun ⟨i, old⟩ _ => ?_
  by_cases hi : i = j <;> simp [hi]

theorem put_only_of_ne {j : Nat} (hj : j ≠ id) (c : Call) (log : List Log.Event) :
    (s.only id log).put j c = s.only id log := by
  have hcalls : ((s.only id log).put j c).calls = (s.only id log).calls := by
    unfold put
    refine (List.map_congr_left fun y hy => ?_).trans (List.map_id _)
    have hy : y.1 = id := by simpa using (List.mem_filter.1 hy).2
    exact if_neg fun h => hj (h.symm.trans hy)
  exact congrArg (fun calls => { s.only id log with calls }) hcalls

/-! ## One step -/

/-- A step that concerns the call is one of what the server has of it. -/
theorem Becomes.only (h : Becomes s x s') (hx : x.concerns id = true) (log : List Log.Event) :
    ∃ log', Becomes (s.only id log) x (s'.only id log') := by
  cases h with
  | trigger => exact ⟨log, .trigger⟩
  | abandon => exact ⟨log, .abandon⟩
  | look hfound hstop => exact ⟨_, .look hfound hstop⟩
  | @connect j bytes hserving hnew =>
    obtain rfl : j = id := by simpa [Step.concerns] using hx
    refine ⟨log, ?_⟩
    have hstep : Becomes (s.only j log) (.connect j bytes) _ :=
      .connect hserving ((call?_only s j log).trans hnew)
    simpa [Server.only, List.filter_append] using hstep
  | @call j y c p hcall hstep =>
    obtain rfl : j = id := by simpa [Step.concerns] using hx
    refine ⟨log ++ p.events, ?_⟩
    have hput := only_put s j j p.call log
    have hnext : Becomes (s.only j log) (.call j y) _ :=
      .call ((call?_only s j log).trans hcall) hstep
    rw [← hput] at hnext
    have hreached : (p.sent.map (j, ·)).toList.filter (·.1 = j) = (p.sent.map (j, ·)).toList := by
      cases p.sent <;> simp
    simpa [Server.only, Server.put, List.filter_append, hreached] using hnext
  | finish hdraining hover =>
    exact ⟨_, .finish hdraining fun y hy => hover y (List.mem_of_mem_filter hy)⟩

/-- A step that does not concern the call leaves what the server has of it. -/
theorem Becomes.only_eq (h : Becomes s x s') (hx : x.concerns id = false)
    (log : List Log.Event) : s'.only id log = s.only id log := by
  cases h with
  | trigger | abandon | look | finish => cases hx
  | @connect j bytes =>
    have hj : j ≠ id := by simpa [Step.concerns] using hx
    simp [Server.only, List.filter_append, hj]
  | @call j y c p =>
    have hj : j ≠ id := by simpa [Step.concerns] using hx
    have hput := (only_put s id j p.call log).trans (put_only_of_ne hj p.call log)
    have hreached : (p.sent.map (j, ·)).toList.filter (·.1 = id) = [] := by
      cases p.sent <;> simp [hj]
    rw [← hput]
    simp [Server.only, Server.put, List.filter_append, hreached]

/-- Whether a step of a call can happen shows in what the server has of it.  The end of the server
alone waits for all calls. -/
theorem isSome_step?_only (s : Server) (hx : x.concerns id = true) (hfinish : x ≠ .finish)
    (log : List Log.Event) : ((s.only id log).step? x).isSome = (s.step? x).isSome := by
  rw [Bool.eq_iff_iff, Option.isSome_iff_exists, Option.isSome_iff_exists]
  simp only [step?_eq_some_iff]
  constructor
  · rintro ⟨t, h⟩
    cases h with
    | trigger => exact ⟨_, .trigger⟩
    | abandon => exact ⟨_, .abandon⟩
    | look hfound hstop => exact ⟨_, .look hfound hstop⟩
    | @connect j bytes hserving hnew =>
      obtain rfl : j = id := by simpa [Step.concerns] using hx
      exact ⟨_, .connect hserving ((call?_only s j log).symm.trans hnew)⟩
    | @call j y c p hcall hstep =>
      obtain rfl : j = id := by simpa [Step.concerns] using hx
      exact ⟨_, .call ((call?_only s j log).symm.trans hcall) hstep⟩
    | finish => exact absurd rfl hfinish
  · rintro ⟨s', h⟩
    obtain ⟨log', h⟩ := h.only hx log
    exact ⟨_, h⟩

/-- A step of another call makes no step possible, and none impossible. -/
theorem isSome_step?_of_becomes {y : Step} (h : Becomes s y s') (hy : y.concerns id = false)
    (hx : x.concerns id = true) (hfinish : x ≠ .finish) :
    (s'.step? x).isSome = (s.step? x).isSome := by
  rw [← isSome_step?_only s' hx hfinish [], h.only_eq hy, isSome_step?_only s hx hfinish]

end Only

/-! ## Runs -/

/-- The steps that concern a call lead to what the run has come to for that call. -/
theorem run?_only {s s' : Server} {steps : List Step} (h : s.run? steps = some s') (id : Nat)
    (log : List Log.Event) : ∃ log',
      (s.only id log).run? (steps.filter (Step.concerns id)) = some (s'.only id log') := by
  induction steps generalizing s log with
  | nil =>
    cases h
    exact ⟨log, rfl⟩
  | cons x rest ih =>
    obtain ⟨next, hx, hrest⟩ := Option.bind_eq_some_iff.1 h
    have hx := step?_eq_some_iff.1 hx
    cases hid : x.concerns id with
    | true =>
      obtain ⟨log', hx'⟩ := hx.only hid log
      obtain ⟨log'', hrest'⟩ := ih hrest log'
      rw [List.filter_cons_of_pos hid]
      exact ⟨log'', Option.bind_eq_some_iff.2 ⟨_, step?_eq_some_iff.2 hx', hrest'⟩⟩
    | false =>
      rw [List.filter_cons_of_neg (by simp [hid]), ← hx.only_eq hid log]
      exact ih hrest log

/-- Steps can happen together if for each call those that concern it can.  The induction is on the
steps; the first of them concerns some call, and it can happen because it can for that one. -/
theorem isSome_run?_of_only {s : Server} {steps : List Step} (hfinish : .finish ∉ steps)
    (h : ∀ id, ∃ log, ((s.only id log).run? (steps.filter (Step.concerns id))).isSome = true) :
    (s.run? steps).isSome = true := by
  induction steps generalizing s with
  | nil => rfl
  | cons x rest ih =>
    rw [List.mem_cons, not_or] at hfinish
    have first {id : Nat} (hid : x.concerns id = true) : ∃ log t,
        (s.only id log).step? x = some t ∧
          (t.run? (rest.filter (Step.concerns id))).isSome = true := by
      obtain ⟨log, hlog⟩ := h id
      rw [List.filter_cons_of_pos hid] at hlog
      obtain ⟨u, hu⟩ := Option.isSome_iff_exists.1 hlog
      obtain ⟨t, ht, hrest⟩ := Option.bind_eq_some_iff.1 hu
      exact ⟨log, t, ht, Option.isSome_iff_exists.2 ⟨u, hrest⟩⟩
    obtain ⟨s', hs'⟩ : ∃ s', s.step? x = some s' := by
      obtain ⟨id, hid⟩ : ∃ id, x.concerns id = true := by
        cases x with
        | connect j _ | call j _ => exact ⟨j, by simp [Step.concerns]⟩
        | trigger | abandon | look | finish => exact ⟨0, rfl⟩
      obtain ⟨log, t, ht, -⟩ := first hid
      rw [← Option.isSome_iff_exists, ← isSome_step?_only s hid (Ne.symm hfinish.1) log, ht]
      rfl
    have hx := step?_eq_some_iff.1 hs'
    refine Option.isSome_iff_exists.2 ?_
    have hrest := ih (s := s') hfinish.2 fun id => ?_
    · obtain ⟨t, ht⟩ := Option.isSome_iff_exists.1 hrest
      exact ⟨t, Option.bind_eq_some_iff.2 ⟨s', hs', ht⟩⟩
    · cases hid : x.concerns id with
      | true =>
        obtain ⟨log, t, ht, hrest⟩ := first hid
        obtain ⟨log', hx'⟩ := hx.only hid log
        cases ht.symm.trans (step?_eq_some_iff.2 hx')
        exact ⟨log', hrest⟩
      | false =>
        obtain ⟨log, hlog⟩ := h id
        rw [List.filter_cons_of_neg (by simp [hid])] at hlog
        exact ⟨log, hx.only_eq hid log ▸ hlog⟩

/-- Steps can happen together if, and only if, for each call those that concern it can. -/
theorem isSome_run?_iff (g : Gateway) (credential : Credential) (socket : Text)
    (harbour : Harbour) {steps : List Step} (hfinish : .finish ∉ steps) :
    ((start g credential socket harbour).run? steps).isSome = true ↔
      ∀ id, ((start g credential socket harbour).run?
        (steps.filter (Step.concerns id))).isSome = true := by
  constructor
  · intro h id
    obtain ⟨s, hs⟩ := Option.isSome_iff_exists.1 h
    obtain ⟨log, hlog⟩ := run?_only hs id [.serving socket]
    exact Option.isSome_iff_exists.2 ⟨_, hlog⟩
  · exact fun h => isSome_run?_of_only hfinish fun id => ⟨[.serving socket], h id⟩

end Server

/-! ## What arrives -/

namespace Call

/-- The request of the bytes goes on, to a URL of the web that a request can ask for, and arrives
in the steps. -/
structure Arrives (g : Gateway) (credential : Credential) (bytes : Bytes) (steps : List Step)
    (q : Asked) : Prop where
  read : reading bytes = .read q
  forwarded : ∃ o, g.judge credential.header.1 q.incoming.head = .forward o
  web : (g.target.url q.incoming.head.uri).scheme = "http" ∨
    (g.target.url q.incoming.head.uri).scheme = "https"
  written : ∃ u,
    RequestUri.parse (g.target.url q.incoming.head.uri).withoutUser.text.utf8 = .ok u
  sent : .send true ∈ steps

section Courses

variable {g : Gateway} {credential : Credential} {bytes : Bytes} {c : Call} {steps : List Step}
  {sent : List Sent} {events : List Log.Event}
  (h : Course g credential bytes c steps sent events)
include h

/-- What arrives is what the target makes of the request that was asked. -/
theorem Course.exists_isMadeOf {q : Asked} (ha : Arrives g credential bytes steps q) :
    ∃ x, sent = [x] ∧ x.IsMadeOf g.target credential.header.1 q := by
  obtain ⟨o, hjudge⟩ := ha.forwarded
  obtain ⟨-, -, rfl⟩ := Gateway.judge_eq_forward_iff.1 hjudge
  refine ⟨_, ?_, g.target.isMadeOf_sent credential.header.1 q⟩
  rw [h.sent_eq, arrivals_of_forward ha.read hjudge,
    if_pos ⟨(Outbound.isSendable_iff _).2 ⟨ha.web, ha.written⟩, ha.sent⟩]

theorem Course.sent_of_not_arrives (hnot : ∀ q, ¬ Arrives g credential bytes steps q) :
    sent = [] := by
  refine h.sent_eq.trans (arrivals_eq_nil fun q o hread hjudge hsend hmem => ?_)
  obtain ⟨-, -, rfl⟩ := Gateway.judge_eq_forward_iff.1 hjudge
  obtain ⟨hweb, hwritten⟩ := (Outbound.isSendable_iff _).1 hsend
  exact hnot q ⟨hread, ⟨_, hjudge⟩, hweb, hwritten, hmem⟩

end Courses

end Call

/-! ## How each call fares -/

namespace Gateway

/-- The calls of a server of the gateway do not meet.  In whatever order their steps are taken, each
is where it would be alone, each caller gets one response, that of its request by itself, and each
request that goes on reaches the service once, as its own. -/
structure IsolatesCalls (g : Gateway) (credential : Credential) (socket : Text)
    (harbour : Harbour) : Prop where
  /-- A step of one call makes no step of another possible, and none impossible. -/
  undisturbed : ∀ (s s' : Server) (id : Nat) (x y : Server.Step), s.step? y = some s' →
    y.concerns id = false → x.concerns id = true → x ≠ .finish →
      (s'.step? x).isSome = (s.step? x).isSome
  possible : ∀ steps, .finish ∉ steps →
    (((Server.start g credential socket harbour).run? steps).isSome = true ↔
      ∀ id, ((Server.start g credential socket harbour).run?
        (steps.filter (Server.Step.concerns id))).isSome = true)
  alone : ∀ steps s, (Server.start g credential socket harbour).run? steps = some s →
    ∀ id, ∃ log, (Server.start g credential socket harbour).run?
      (steps.filter (Server.Step.concerns id)) = some (s.only id log)
  response : ∀ steps s, (Server.start g credential socket harbour).run? steps = some s →
    ∀ id bytes, .connect id bytes ∈ steps → ∃ c, s.call? id = some c ∧
      (Server.own id steps).count .deliver = (if c.response?.isSome then 1 else 0) ∧
      ∀ r, c = .over r →
        (s.phase = .serving →
          r = g.answerAlone credential (Call.replyIn (Server.own id steps)) bytes) ∧
        r.map Response.withoutConnection = (g.answerAlone credential
          (Call.replyIn (Server.own id steps)) bytes).map Response.withoutConnection
  arrival : ∀ steps s, (Server.start g credential socket harbour).run? steps = some s →
    (∀ id bytes, .connect id bytes ∈ steps →
      s.reachedFor id = Call.arrivals g credential bytes (Server.own id steps)) ∧
    ∀ id, (∀ bytes, .connect id bytes ∉ steps) → s.reachedFor id = []
  /-- What arrives of a call is its own request, part by part. -/
  request : ∀ steps s, (Server.start g credential socket harbour).run? steps = some s →
    ∀ id bytes, .connect id bytes ∈ steps →
      (∀ q, Call.Arrives g credential bytes (Server.own id steps) q →
        ∃ x, s.reachedFor id = [x] ∧ x.IsMadeOf g.target credential.header.1 q) ∧
      ((∀ q, ¬ Call.Arrives g credential bytes (Server.own id steps) q) → s.reachedFor id = [])
  /-- Whatever becomes of the others, a call can come to its end. -/
  ending : ∀ steps s, (Server.start g credential socket harbour).run? steps = some s →
    ∀ id bytes, .connect id bytes ∈ steps → ∃ (more : List Call.Step) (t : Server)
      (r : Option Response), s.run? (more.map (.call id)) = some t ∧
        t.call? id = some (.over r) ∧ ∀ j, j ≠ id → t.call? j = s.call? j

theorem isolatesCalls (g : Gateway) (credential : Credential) (socket : Text)
    (harbour : Harbour) : g.IsolatesCalls credential socket harbour where
  undisturbed _ _ _ _ _ h hy hx hfinish :=
    Server.isSome_step?_of_becomes (Server.step?_eq_some_iff.1 h) hy hx hfinish
  possible steps hfinish := Server.isSome_run?_iff g credential socket harbour hfinish
  alone steps s h id := Server.run?_only h id [.serving socket]
  response steps s h id bytes hconnect := by
    obtain ⟨c, events, hc, hcourse⟩ := (Server.tracks_of_run? h).course_of_connect hconnect
    refine ⟨c, hc, hcourse.count_deliver, fun r hover => ?_⟩
    obtain ⟨closing, hclosing, hr⟩ :=
      Server.hasAnswered_of_run? h id bytes r hconnect (hover ▸ hc)
    rw [← Call.outcome_eq_alone, hr]
    exact ⟨fun hserving => by rw [hclosing hserving], Call.withoutConnection_outcome _ _ _ _ _⟩
  arrival steps s h := by
    have htracks := Server.tracks_of_run? h
    constructor
    · intro id bytes hconnect
      obtain ⟨c, events, -, hcourse⟩ := htracks.course_of_connect hconnect
      exact hcourse.sent_eq
    · intro id hconnect
      cases hc : s.call? id with
      | none => exact (htracks.idle id hc).2.2
      | some c =>
        obtain ⟨bytes, events, hbytes, -⟩ := htracks.course id c hc
        exact absurd ((hbytes bytes).2 rfl) (hconnect bytes)
  request steps s h id bytes hconnect := by
    obtain ⟨c, events, -, hcourse⟩ := (Server.tracks_of_run? h).course_of_connect hconnect
    exact ⟨fun q ha => hcourse.exists_isMadeOf ha, hcourse.sent_of_not_arrives⟩
  ending steps s h id bytes hconnect := by
    obtain ⟨c, events, hc, -⟩ := (Server.tracks_of_run? h).course_of_connect hconnect
    obtain ⟨more, t, r, hrun, hover, hothers, -⟩ := Server.exists_over hc
    exact ⟨more, t, r, hrun, hover, hothers⟩

end Gateway

end CredentialGateway
