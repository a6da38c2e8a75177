import CredentialGateway.Proofs.GivenLength
import CredentialGateway.Proofs.ServerRuns

/-!
# What comes of a call

What a caller gets in the end depends on its bytes, on the reply of the service and, for the word
about the connection, on whether connections stay open.  So a call that is over has the response
that its request has by itself against the same reply; and a call that is not over can always go on,
for which it needs nothing but its own steps.

    the outcome of a call is what the gateway answers to it alone         (Call.outcome_eq_alone)
    its steps answer, send and report what the gateway does at once          (Call.answer_of_run?)
    a call that is over has its outcome, whatever the run     (Server.hasAnswered_of_run?)
    a call can come to its end by its own steps                           (Server.exists_over)
-/

namespace CredentialGateway

namespace Call

/-! ## The outcome -/

/-- The reply that is in a step. -/
def Step.reply? : Step → Option Reply
  | .reply r => some r
  | _ => none

/-- The reply that has come in the steps of a call; a request that never arrives has none. -/
def replyIn (steps : List Step) : Reply := (steps.findSome? Step.reply?).getD .unreachable

/-- The response that is made for a request, given the reply to what is forwarded. -/
def responseTo (g : Gateway) (credential : Credential) (reply : Reply) (q : Asked) : Response :=
  (match g.judge credential.header.1 q.incoming.head with
    | .forward o => if o.isSendable then o.response reply else .badGateway
    | .notServed | .dotSegment => .notFound).toMethod q.incoming.head.method

/-- What a caller gets for its bytes; `none` if it never sends a whole request head, or the head of
its response cannot be written. -/
def outcome (g : Gateway) (credential : Credential) (reply : Reply) (closing : Bool)
    (bytes : Bytes) : Option Response :=
  match reading bytes with
  | .read q => delivered closing (some q) (responseTo g credential reply q)
  | .answered q r => delivered closing q r
  | _ => none

section Outcome

variable {g : Gateway} {credential : Credential} {bytes : Bytes} {q : Asked}

theorem outcome_of_read (hread : reading bytes = .read q) (reply : Reply) (closing : Bool) :
    outcome g credential reply closing bytes =
      delivered closing (some q) (responseTo g credential reply q) := by
  simp only [outcome, hread]

theorem responseTo_of_forward {o : Outbound} (reply : Reply)
    (hjudge : g.judge credential.header.1 q.incoming.head = .forward o) :
    responseTo g credential reply q =
      (if o.isSendable then o.response reply else .badGateway).toMethod q.incoming.head.method := by
  simp only [responseTo, hjudge]

theorem responseTo_of_refused (reply : Reply)
    (hjudge : ∀ o, g.judge credential.header.1 q.incoming.head ≠ .forward o) :
    responseTo g credential reply q = Response.notFound.toMethod q.incoming.head.method := by
  unfold responseTo
  cases hv : g.judge credential.header.1 q.incoming.head with
  | notServed => rfl
  | dotSegment => rfl
  | forward o => exact absurd hv (hjudge o)

/-- What reaches the service of a call with these bytes when these are its steps: its own request,
once, if it goes on, can be sent, and arrives. -/
def arrivals (g : Gateway) (credential : Credential) (bytes : Bytes) (steps : List Step) :
    List Sent :=
  match reading bytes with
  | .read q =>
    match g.judge credential.header.1 q.incoming.head with
    | .forward o => if o.isSendable = true ∧ .send true ∈ steps then [o.sent q.body] else []
    | .notServed | .dotSegment => []
  | _ => []

theorem arrivals_of_forward {o : Outbound} {steps : List Step} (hread : reading bytes = .read q)
    (hjudge : g.judge credential.header.1 q.incoming.head = .forward o) :
    arrivals g credential bytes steps =
      if o.isSendable = true ∧ .send true ∈ steps then [o.sent q.body] else [] := by
  simp only [arrivals, hread, hjudge]

/-- Nothing arrives but what goes on, can be sent, and is sent so that it does. -/
theorem arrivals_eq_nil {steps : List Step} (h : ∀ q o, reading bytes = .read q →
    g.judge credential.header.1 q.incoming.head = .forward o → o.isSendable = true →
      .send true ∉ steps) : arrivals g credential bytes steps = [] := by
  unfold arrivals
  split
  · rename_i q hread
    split
    · rename_i o hjudge
      exact if_neg fun ha => h q o hread hjudge ha.1 ha.2
    · rfl
    · rfl
  · rfl

theorem arrivals_of_not_mem {steps : List Step} (h : .send true ∉ steps) :
    arrivals g credential bytes steps = [] := arrivals_eq_nil fun _ _ _ _ _ => h

end Outcome

/-! ## A course comes to its outcome -/

section Courses

variable {g : Gateway} {credential : Credential} {bytes : Bytes} {steps : List Step}
  {sent : List Sent} {events : List Log.Event}

/-- A step without a reply changes none. -/
theorem replyIn_append {x : Step} (hx : x.reply? = none) (steps : List Step) :
    replyIn (steps ++ [x]) = replyIn steps := by
  simp [replyIn, List.findSome?_append, hx]

/-- A response that is there is the one that the reply in the steps leads to. -/
theorem Course.answered_eq {q : Option Asked} {r : Response}
    (h : Course g credential bytes (.answered q r) steps sent events) (closing : Bool) :
    outcome g credential (replyIn steps) closing bytes = Call.delivered closing q r := by
  generalize hc : Call.answered q r = c at h
  cases h with
  | unread hread =>
    cases hc
    simp only [outcome, hread]
  | refused hread hjudge =>
    cases hc
    rw [outcome_of_read hread, responseTo_of_refused _ hjudge]
  | unsendable arrives hread hjudge hsend =>
    cases hc
    rw [outcome_of_read hread, responseTo_of_forward _ hjudge, if_neg (by simp [hsend])]
  | lost hread hjudge hsend =>
    cases hc
    rw [outcome_of_read hread, responseTo_of_forward _ hjudge, if_pos hsend]
    rfl
  | replied hread hjudge hsend hr =>
    cases hc
    rw [outcome_of_read hread, responseTo_of_forward _ hjudge, if_pos hsend]
    rfl
  | connected | gone | read | admitted | waiting | delivered | closed => cases hc

/-- A caller is answered once on the way to its response. -/
theorem Course.count_deliver {c : Call} (h : Course g credential bytes c steps sent events) :
    steps.count .deliver = if c.response?.isSome then 1 else 0 := by
  induction h with
  | delivered h hout ih =>
    rw [List.count_append, ih]
    rfl
  | closed h hout ih =>
    rw [List.count_append, ih]
    rfl
  | connected | gone | unread | read | refused | admitted | unsendable | lost | waiting | replied =>
    rfl

/-- What has reached the service is the request that the bytes are made into by themselves. -/
theorem Course.sent_eq {c : Call} (h : Course g credential bytes c steps sent events) :
    sent = arrivals g credential bytes steps := by
  induction h with
  | connected => exact (arrivals_of_not_mem (by simp)).symm
  | gone hread => simp [arrivals, hread]
  | unread hread => simp [arrivals, hread]
  | read => exact (arrivals_of_not_mem (by simp)).symm
  | refused => exact (arrivals_of_not_mem (by simp)).symm
  | admitted => exact (arrivals_of_not_mem (by simp)).symm
  | unsendable arrives hread hjudge hsend => simp [arrivals_of_forward hread hjudge, hsend]
  | lost => exact (arrivals_of_not_mem (by simp)).symm
  | waiting hread hjudge hsend => simp [arrivals_of_forward hread hjudge, hsend]
  | replied hread hjudge hsend => simp [arrivals_of_forward hread hjudge, hsend]
  | delivered h hout ih => simpa [arrivals] using ih
  | closed h hout ih => simpa [arrivals] using ih

end Courses

/-! ## The word about the connection -/

end Call

/-- The response without the word about the connection. -/
def Response.withoutConnection (r : Response) : Response :=
  { r with headers := r.headers.erase .connection }

namespace Call

/-- That word apart, a response goes out the same whether connections stay open or not. -/
theorem withoutConnection_delivered (closing : Bool) (q : Option Asked) (r : Response) :
    (delivered closing q r).map Response.withoutConnection =
      (delivered false q r).map Response.withoutConnection := by
  have hfield (newer keepAlive : Bool) :
      (Http.connectionField newer keepAlive).filter (·.1 ≠ .connection) = [] := by
    cases newer <;> cases keepAlive <;> rfl
  cases q with
  | none => rfl
  | some q =>
    simp only [delivered, Http.overConnection]
    split
    · simp only [Option.map_some, Response.withoutConnection, Headers.erase, List.filter_append,
        hfield]
    · rfl

theorem withoutConnection_outcome (g : Gateway) (credential : Credential) (reply : Reply)
    (closing : Bool) (bytes : Bytes) :
    (outcome g credential reply closing bytes).map Response.withoutConnection =
      (outcome g credential reply false bytes).map Response.withoutConnection := by
  unfold outcome
  split
  · exact withoutConnection_delivered _ _ _
  · exact withoutConnection_delivered _ _ _
  · rfl

/-! ## A call by itself -/

end Call

/-- What a caller gets for its bytes if there is no other caller, and this is the reply. -/
def Gateway.answerAlone (g : Gateway) (credential : Credential) (reply : Reply) (bytes : Bytes) :
    Option Response :=
  (g.answerBytes credential (fun _ _ => reply) 0 bytes).map (·.response)

namespace Call

theorem outcome_eq_alone (g : Gateway) (credential : Credential) (reply : Reply) (bytes : Bytes) :
    outcome g credential reply false bytes = g.answerAlone credential reply bytes := by
  unfold outcome Gateway.answerAlone Gateway.answerBytes reading
  cases Http.request bytes with
  | error e =>
    cases e with
    | incomplete => rfl
    | refused r => rfl
  | ok x =>
    obtain ⟨incoming, rest⟩ := x
    have hresponse (out : Option Response) (f : Outbound.Forwarded) :
        (out.map fun response => { f with response }).map (·.response) = out := by
      cases out <;> rfl
    simp only [delivered, Bool.not_false, Bool.and_true, hresponse]
    congr 1
    cases hv : g.judge credential.header.1 incoming.head with
    | notServed => simp only [responseTo, Gateway.answer, hv]
    | dotSegment => simp only [responseTo, Gateway.answer, hv]
    | forward o =>
      simp only [responseTo, Gateway.answer, hv, Outbound.forward]
      split <;> rfl

/-- A call after steps that fit, what of it has reached the service in them, and what was reported. -/
def run? (g : Gateway) (credential : Credential) (closing : Bool) :
    Call → List Step → Option (Call × List Sent × List Log.Event)
  | c, [] => some (c, [], [])
  | c, x :: steps => do
    let p ← c.step? g credential closing x
    let (d, sent, events) ← p.call.run? g credential closing steps
    return (d, p.sent.toList ++ sent, p.events ++ events)

section Answering

variable {g : Gateway} {credential : Credential} {bytes : Bytes} {steps : List Step}
  {sent : List Sent} {events : List Log.Event}

theorem Course.run {closing : Bool} {rest : List Step} {c d : Call} {sent' : List Sent}
    {events' : List Log.Event} (h : Course g credential bytes c steps sent events)
    (hrun : c.run? g credential closing rest = some (d, sent', events')) :
    Course g credential bytes d (steps ++ rest) (sent ++ sent') (events ++ events') := by
  induction rest generalizing c steps sent events sent' events' with
  | nil =>
    cases hrun
    simpa using h
  | cons x rest ih =>
    obtain ⟨p, hp, hrun⟩ := Option.bind_eq_some_iff.1 hrun
    obtain ⟨⟨d', sent'', events''⟩, hrest, hrun⟩ := Option.bind_eq_some_iff.1 hrun
    cases hrun
    simpa using ih (h.step (step?_eq_some_iff.1 hp)) hrest

/-- A request that has its answer has the one that the gateway gives it at once, against the reply
that has come; the same has reached the service, and the same was reported. -/
theorem Course.answer_eq {q : Asked} {r : Response}
    (h : Course g credential bytes (.answered (some q) r) steps sent events) :
    g.answer credential (fun _ _ => replyIn steps) 0 q.incoming.head q.body =
      ⟨r, sent.head?, events⟩ := by
  generalize hc : Call.answered (some q) r = c at h
  cases h with
  | refused hread hjudge =>
    cases hc
    unfold Gateway.answer judging
    cases hv : g.judge credential.header.1 q.incoming.head with
    | notServed | dotSegment => simp [hv]
    | forward o => exact absurd hv (hjudge o)
  | unsendable arrives hread hjudge hsend =>
    cases hc
    simp [Gateway.answer, hjudge, Outbound.forward, hsend]
  | lost hread hjudge hsend =>
    cases hc
    have hreply : replyIn [.read, .judge, .send false] = .unreachable := rfl
    simp [Gateway.answer, hjudge, Outbound.forward, hsend, hreply]
  | @replied _ _ reply hread hjudge hsend hr =>
    cases hc
    have hreply : replyIn [.read, .judge, .send true, .reply reply] = reply := rfl
    simp [Gateway.answer, hjudge, Outbound.forward, hsend, hreply, hr]
  | connected | gone | unread | read | admitted | waiting | delivered | closed => cases hc

/-- The steps of a call come to what the gateway answers at once, whichever they are. -/
theorem answer_of_run? {closing : Bool} {q : Asked} {r : Response}
    (h : (Call.connected bytes).run? g credential closing steps =
      some (.answered (some q) r, sent, events)) :
    g.answer credential (fun _ _ => replyIn steps) 0 q.incoming.head q.body =
      ⟨r, sent.head?, events⟩ :=
  (Course.connected.run h).answer_eq

end Answering

end Call

/-! ## The gateway's own answers -/

/-- An answer that says the length of its body goes out with it, as far as a body is wanted. -/
theorem Call.exists_delivered (closing : Bool) (q : Asked) {r : Response}
    (hstatus : 300 ≤ r.status) (hlength : r.headers.HasLength (some r.body.length)) :
    ∃ out, delivered closing (some q) (r.toMethod q.incoming.head.method) = some out ∧
      out.status = r.status ∧ out.complete = true ∧
      out.body = if Http.isBodiless q.incoming.head.method r.status then [] else r.body := by
  have htunnel (method : Text) : Http.opensTunnel method r.status = false := by
    rw [Http.opensTunnel, decide_eq_false (Nat.not_lt.2 hstatus), Bool.and_false]
  have hone : (Headers.values .contentLength r.headers).length = 1 := by
    simpa using congrArg List.length hlength
  unfold Response.toMethod
  split
  · rename_i hhead
    refine ⟨_, if_pos ?_, rfl, ?_⟩
    · simp [Http.isWritable, htunnel, hhead, hone]
    · simp [Http.carried, Http.isBodiless, hhead]
  · rename_i hhead
    refine ⟨_, if_pos ?_, rfl, ?_⟩
    · simp only [Http.isWritable, htunnel, if_neg hhead, hlength.givenLength?, Option.isSome_some,
        Bool.not_false, Bool.and_true, Bool.or_true]
    · simp only [Http.carried]
      split
      · exact ⟨rfl, rfl⟩
      · simp [hlength.givenLength?]

/-! ## A call comes to its end -/

namespace Call

/-- How many steps are left at most. -/
def left : Call → Nat
  | .connected _ => 5
  | .read _ => 4
  | .admitted .. => 3
  | .waiting .. => 2
  | .answered .. => 1
  | .over _ => 0

/-- A call that is not over can go on. -/
theorem exists_step (g : Gateway) (credential : Credential) (closing : Bool) {c : Call}
    (hc : ∀ r, c ≠ .over r) :
    ∃ x p, Leads g credential closing c x p ∧ p.call.left < c.left := by
  match c with
  | .connected bytes =>
    refine ⟨.read, _, .read bytes, ?_⟩
    rcases reading_cases bytes with h | ⟨r, h⟩ | ⟨q, h⟩ <;> simp [h, left]
  | .read q =>
    refine ⟨.judge, _, .judge q, ?_⟩
    rcases judging_cases g credential q with ⟨o, -, h⟩ | ⟨-, h, -⟩ <;> simp [h, answering, left]
  | .admitted q o =>
    refine ⟨.send false, _, .send q o false, ?_⟩
    unfold sending
    split <;> simp [answering, left]
  | .waiting q o => exact ⟨.reply .hangUp, _, .reply q o (by simp), by simp [answering, left]⟩
  | .answered q r =>
    cases hout : delivered closing q r with
    | some out => exact ⟨.deliver, _, .deliver hout, by simp [left]⟩
    | none => exact ⟨.close, _, .close hout, by simp [left]⟩
  | .over r => exact absurd rfl (hc r)

end Call

namespace Server

/-- A step of a call leads it on, and no other. -/
theorem Becomes.call?_eq {s t : Server} {id : Nat} {x : Call.Step}
    (h : Becomes s (.call id x) t) : ∃ c p, s.call? id = some c ∧
      Call.Leads s.gateway s.credential (s.phase ≠ .serving) c x p ∧
      ∀ j, t.call? j = if j = id then some p.call else s.call? j := by
  cases h with
  | call hcall hstep =>
    exact ⟨_, _, hcall, hstep, call?_put_of_eq_some hcall _⟩

/-- A call can come to its end by its own steps, whatever the others do not. -/
theorem exists_over {s : Server} {id : Nat} {c : Call} (hcall : s.call? id = some c) :
    ∃ (steps : List Call.Step) (t : Server) (r : Option Response),
      s.run? (steps.map (.call id)) = some t ∧ t.call? id = some (.over r) ∧
      (∀ j, j ≠ id → t.call? j = s.call? j) ∧ t.phase = s.phase := by
  induction hleft : c.left using Nat.strong_induction_on generalizing s c with
  | _ n ih =>
    by_cases hc : ∃ r, c = .over r
    · obtain ⟨r, rfl⟩ := hc
      exact ⟨[], s, r, rfl, hcall, fun _ _ => rfl, rfl⟩
    · obtain ⟨x, p, hx, hp⟩ := Call.exists_step s.gateway s.credential (s.phase ≠ .serving)
        fun r h => hc ⟨r, h⟩
      have hstep := Becomes.call hcall hx
      obtain ⟨c', p', hc', hp', hfind⟩ := hstep.call?_eq
      cases hcall.symm.trans hc'
      cases (Call.step?_eq_some_iff.2 hx).symm.trans (Call.step?_eq_some_iff.2 hp')
      obtain ⟨steps, t, r, hrun, hover, hothers, hphase⟩ :=
        ih p.call.left (hleft ▸ hp) ((hfind id).trans (if_pos rfl)) rfl
      refine ⟨x :: steps, t, r, ?_, hover, fun j hj => ?_, hphase⟩
      · exact Option.bind_eq_some_iff.2 ⟨_, step?_eq_some_iff.2 hstep, hrun⟩
      · rw [hothers j hj, hfind, if_neg hj]

/-! ## What callers have got -/

/-- The callers of the calls that are over have what their requests come to by themselves; as long
as the server serves, connections stay open. -/
def HasAnswered (g : Gateway) (credential : Credential) (steps : List Step) (s : Server) : Prop :=
  ∀ id bytes r, .connect id bytes ∈ steps → s.call? id = some (.over r) →
    ∃ closing, (s.phase = .serving → closing = false) ∧
      r = Call.outcome g credential (Call.replyIn (own id steps)) closing bytes

section Answers

variable {g : Gateway} {credential : Credential} {steps : List Step} {s s' : Server}

/-- A step that is none of a call answers nobody. -/
theorem HasAnswered.quiet (h : HasAnswered g credential steps s) {x : Step}
    (hcall : ∀ id y, x ≠ .call id y) (hconnect : ∀ id bytes, x ≠ .connect id bytes)
    (hcalls : s'.calls = s.calls) (hphase : s'.phase = .serving → s.phase = .serving) :
    HasAnswered g credential (steps ++ [x]) s' := by
  intro id bytes r hmem hover
  have hold : .connect id bytes ∈ steps := by simpa [(hconnect id bytes).symm] using hmem
  obtain ⟨closing, hclosing, hr⟩ := h id bytes r hold (by rwa [call?, ← hcalls])
  rw [own_append_of_ne id steps (hcall id)]
  exact ⟨closing, hclosing ∘ hphase, hr⟩

/-- A caller that has just connected has not been answered. -/
theorem HasAnswered.connect (h : HasAnswered g credential steps s) {id : Nat} {bytes : Bytes}
    (hnew : s.call? id = none) :
    HasAnswered g credential (steps ++ [.connect id bytes])
      { s with calls := s.calls ++ [(id, .connected bytes)] } := by
  intro j b r hmem hover
  rw [own_append_of_ne j steps (by simp)]
  rw [call?_connect, Option.or_eq_some_iff] at hover
  rcases hover with hover | ⟨-, hover⟩
  · have hold : .connect j b ∈ steps := by
      rcases List.mem_append.1 hmem with hold | hnow
      · exact hold
      · have hj : j = id := by simp at hnow; exact hnow.1
        cases (hj ▸ hnew).symm.trans hover
    exact h j b r hold hover
  · split at hover <;> cases hover

/-- What a caller gets in the step that ends its call. -/
theorem outcome_of_leads {bytes : Bytes} {c : Call} {x : Call.Step} {p : Call.Progress}
    {own : List Call.Step} {sent : List Sent} {events : List Log.Event} {closing : Bool}
    {r : Option Response} (hcourse : Call.Course g credential bytes c own sent events)
    (hstep : Call.Leads g credential closing c x p) (hover : p.call = .over r) :
    r = Call.outcome g credential (Call.replyIn (own ++ [x])) closing bytes := by
  cases hstep with
  | read =>
    -- the bytes are no whole request
    cases hcourse with
    | connected =>
      rcases Call.reading_cases bytes with hread | ⟨r', hread⟩ | ⟨q, hread⟩
      · cases hread.symm.trans hover
        simp only [Call.outcome, hread]
      · cases hread.symm.trans hover
      · cases hread.symm.trans hover
  | judge q =>
    rcases Call.judging_cases g credential q with ⟨o, -, hj⟩ | ⟨-, hj, -⟩
    · rw [hj] at hover
      cases hover
    · cases hj.symm.trans hover
  | send =>
    unfold Call.sending at hover
    split at hover
    · cases hover
    · split at hover <;> cases hover
  | reply => cases hover
  | deliver hout | close hout =>
    cases hover
    rw [Call.replyIn_append rfl, hcourse.answered_eq, hout]

/-- A step of a call answers its caller at most. -/
theorem HasAnswered.call (h : HasAnswered g credential steps s)
    (htracks : Tracks g credential steps s) {id : Nat} {x : Call.Step}
    (hx : Becomes s (.call id x) s') (hphase : s'.phase = s.phase) :
    HasAnswered g credential (steps ++ [.call id x]) s' := by
  intro j bytes r hmem hover
  have hold : .connect j bytes ∈ steps := by simpa using hmem
  obtain ⟨c, p, hc, hp, hfind⟩ := hx.call?_eq
  rw [hfind] at hover
  rw [own_append_call, hphase]
  split at hover
  · rename_i hj
    subst hj
    obtain ⟨c', events, hc', hcourse⟩ := htracks.course_of_connect hold
    cases hc.symm.trans hc'
    rw [htracks.gateway_eq, htracks.credential_eq] at hp
    refine ⟨decide (s.phase ≠ .serving), fun hserving => by simp [hserving], ?_⟩
    rw [if_pos rfl]
    exact outcome_of_leads hcourse hp (Option.some.inj hover)
  · rename_i hj
    rw [if_neg (Ne.symm hj), List.append_nil]
    exact h j bytes r hold hover

/-- Whatever a server has been through, its callers have what their requests come to. -/
theorem hasAnswered_of_run? {socket : Text} {harbour : Harbour}
    (h : (start g credential socket harbour).run? steps = some s) :
    HasAnswered g credential steps s := by
  suffices hboth : Tracks g credential steps s ∧ HasAnswered g credential steps s from hboth.2
  refine run?_invariant
    (P := fun steps s => Tracks g credential steps s ∧ HasAnswered g credential steps s)
    ⟨tracks_start g credential socket harbour, fun _ _ _ hmem => by simp at hmem⟩ ?_ h
  intro done s x s' ⟨htracks, hs⟩ hx
  refine ⟨htracks.step hx, ?_⟩
  cases hx with
  | trigger => exact hs.quiet (by simp) (by simp) rfl id
  | abandon => exact hs.quiet (by simp) (by simp) rfl id
  | look => exact hs.quiet (by simp) (by simp) rfl fun hphase => by cases hphase
  | finish => exact hs.quiet (by simp) (by simp) rfl fun hphase => by cases hphase
  | connect hserving hnew => exact hs.connect hnew
  | call hcall hstep => exact hs.call htracks (.call hcall hstep) rfl

end Answers

end Server

end CredentialGateway
