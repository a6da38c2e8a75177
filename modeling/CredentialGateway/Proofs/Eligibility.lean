import CredentialGateway.Proofs.CallOutcome
import CredentialGateway.Proofs.CredentialReport
import CredentialGateway.Proofs.PatternGrammar
import CredentialGateway.Proofs.SentRequest

/-!
# Which requests are handed over

If the start of served paths is read as it stands, a request is eligible if its path is the start or
goes on with a slash behind it, and has no dot segment.  The eligible requests are the ones that are
handed over to be sent, each once and as the outbound request that the target makes of it; every
other request is answered 404, and the service sees nothing of it.  This holds of one request by
itself, and of each call in whatever a server goes through.

    judge = .forward o ↔ eligible, and o is the outbound request    (judge_eq_forward_iff_eligible)
    the answer to an eligible request is what comes of sending it    (answer_of_eligible)
    a call that goes on is sent once on its way, any other never    (Call.Course.sends_or_not)
    whatever a run has been, it hands over the eligible requests    (Server.handsOver_of_run?)
-/

namespace CredentialGateway

namespace ServiceConfig

/-- The start of served paths is read as it stands. -/
structure HasPlainStart (c : ServiceConfig) : Prop where
  slash : c.pathStart.head? = some '/'
  literal : PathPattern.IsLiteral c.pathStart
  new : ∀ s ∈ c.pathStart.splitOn '/', s.head? ≠ some ':' ∧ s.head? ≠ some '*'

/-- The path is the start or lies below it, and has no dot segment. -/
def Eligible (c : ServiceConfig) (path : Text) : Prop :=
  (path = c.pathStart ∨ (c.pathStart ++ ['/']) <+: path) ∧ Path.hasDotSegment path = false

instance (c : ServiceConfig) (path : Text) : Decidable (c.Eligible path) :=
  inferInstanceAs (Decidable (_ ∧ _))

end ServiceConfig

/-! ## Responses -/

theorem Response.status_toMethod (r : Response) (method : Text) :
    (r.toMethod method).status = r.status := by
  unfold toMethod
  split <;> rfl

/-! ## One request -/

/-- The event reports that a request has been handed over to be sent. -/
def Log.Event.isSending : Log.Event → Bool
  | .sending .. => true
  | _ => false

/-- A request that is handed over is reported once, whatever comes of it. -/
theorem Outbound.countP_isSending_forward (o : Outbound) (body : BodyStream) (service : Service)
    (n : Nat) : (o.forward body service n).events.countP Log.Event.isSending = 1 := by
  have hreported (reply : Reply) : (o.reported reply).countP Log.Event.isSending = 0 := by
    cases reply <;> rfl
  have hsending (events : List Log.Event) (h : events.countP Log.Event.isSending = 0) :
      (o.sending :: events).countP Log.Event.isSending = 1 := by
    rw [List.countP_cons, h]
    rfl
  unfold forward
  split
  · exact hsending _ (hreported _)
  · exact hsending _ rfl

theorem Credential.countP_isSending_header (c : Credential) :
    c.header.2.countP Log.Event.isSending = 0 := by
  rw [reported_header]
  split <;> rfl

namespace Gateway

section Judging

variable {c : ServiceConfig} {g : Gateway} (hc : c.HasPlainStart) (hg : ofConfig c = .ok g)
include hc hg

/-- The requests that go on are the eligible ones. -/
theorem judge_eq_forward_iff_eligible {authorization : HeaderValue} {r : RequestHead}
    {o : Outbound} : g.judge authorization r = .forward o ↔
      c.Eligible r.uri.path ∧ g.target.outbound authorization r = o := by
  have hp := (ofConfig_eq_ok_iff.1 hg).2
  rw [judge_eq_forward_iff, PathPattern.serves_of_isLiteral hp hc.literal, ← and_assoc]
  rfl

theorem judge_of_not_eligible {authorization : HeaderValue} {r : RequestHead}
    (h : ¬ c.Eligible r.uri.path) (o : Outbound) : g.judge authorization r ≠ .forward o :=
  fun ho => h ((judge_eq_forward_iff_eligible hc hg).1 ho).1

/-- What an eligible request is answered is what comes of sending its outbound request. -/
theorem answer_of_eligible (credential : Credential) (service : Service) (n : Nat)
    {r : RequestHead} (body : BodyStream) (h : c.Eligible r.uri.path) :
    let f := (g.target.outbound credential.header.1 r).forward body service n
    g.answer credential service n r body =
      ⟨f.response.toMethod r.method, f.sent, credential.header.2 ++ f.events⟩ := by
  have hj : g.judge credential.header.1 r =
      .forward (g.target.outbound credential.header.1 r) :=
    (judge_eq_forward_iff_eligible hc hg).2 ⟨h, rfl⟩
  simp only [answer, hj]

theorem answer_of_not_eligible (credential : Credential) (service : Service) (n : Nat)
    {r : RequestHead} (body : BodyStream) (h : ¬ c.Eligible r.uri.path) :
    (g.answer credential service n r body).events.countP Log.Event.isSending = 0 ∧
      (g.answer credential service n r body).sent = none ∧
      (g.answer credential service n r body).response = Response.notFound.toMethod r.method := by
  have hj : ∀ o, g.judge credential.header.1 r ≠ .forward o := judge_of_not_eligible hc hg h
  unfold answer
  cases hv : g.judge credential.header.1 r with
  | notServed => simp [hv]
  | dotSegment => simp [hv, Log.Event.isSending]
  | forward o => exact absurd hv (hj o)

end Judging

end Gateway

/-! ## One call -/

namespace Call

/-- A request is handed over to be sent. -/
def Step.isSend : Step → Bool
  | .send _ => true
  | _ => false

/-- The response is there, or there will be none. -/
def isSettled : Call → Bool
  | .answered .. | .over _ => true
  | _ => false

section Courses

variable {g : Gateway} {credential : Credential} {bytes : Bytes} {c : Call} {steps : List Step}
  {sent : List Sent} {events : List Log.Event}
  (h : Course g credential bytes c steps sent events)
include h

/-- On its way a call is sent once if its request goes on, and else never.  The induction is on the
course; a call is settled before its response is delivered. -/
theorem Course.sends_or_not :
    (steps.countP Step.isSend = 1 ∧ ∃ q o, reading bytes = .read q ∧
      g.judge credential.header.1 q.incoming.head = .forward o) ∨
    (steps.countP Step.isSend = 0 ∧ (c.isSettled = true → ∀ q, reading bytes = .read q →
      ∀ o, g.judge credential.header.1 q.incoming.head ≠ .forward o)) := by
  have hcount (x : Step) (hx : x.isSend = false) (steps : List Step) :
      (steps ++ [x]).countP Step.isSend = steps.countP Step.isSend := by
    rw [List.countP_append, List.countP_singleton, hx]
    rfl
  induction h with
  | connected | read | admitted => exact .inr ⟨rfl, by simp [isSettled]⟩
  | gone hread | unread hread =>
    exact .inr ⟨rfl, fun _ q hq => by cases hread.symm.trans hq⟩
  | refused hread hjudge =>
    refine .inr ⟨rfl, fun _ q hq => ?_⟩
    cases hread.symm.trans hq
    exact hjudge
  | unsendable _ hread hjudge | lost hread hjudge | waiting hread hjudge | replied hread hjudge =>
    exact .inl ⟨rfl, _, _, hread, hjudge⟩
  | delivered h hout ih | closed h hout ih =>
    rw [hcount _ rfl]
    exact ih.imp_right fun ⟨hnone, hjudge⟩ => ⟨hnone, fun _ => hjudge rfl⟩

/-- What goes on is sent once on the way to its response. -/
theorem Course.of_forward {q : Asked} {o : Outbound} (hread : reading bytes = .read q)
    (hjudge : g.judge credential.header.1 q.incoming.head = .forward o) :
    steps.countP Step.isSend ≤ 1 ∧ (c.isSettled = true → steps.countP Step.isSend = 1) := by
  rcases h.sends_or_not with ⟨hone, -⟩ | ⟨hnone, hrefused⟩
  · exact ⟨hone.le, fun _ => hone⟩
  · exact ⟨by omega, fun hc => absurd hjudge (hrefused hc q hread o)⟩

/-- What does not go on is never sent. -/
theorem Course.of_not_forward (hnot : ∀ q, reading bytes = .read q →
    ∀ o, g.judge credential.header.1 q.incoming.head ≠ .forward o) :
    steps.countP Step.isSend = 0 ∧ sent = [] := by
  rcases h.sends_or_not with ⟨-, q, o, hread, hjudge⟩ | ⟨hnone, -⟩
  · exact absurd hjudge (hnot q hread o)
  · exact ⟨hnone, h.sent_eq.trans (arrivals_eq_nil fun q o hread hjudge =>
      absurd hjudge (hnot q hread o))⟩

/-- As long as a request that goes on has not been sent, nothing is in the way of sending it. -/
theorem Course.exists_send {q : Asked} {o : Outbound} (hread : reading bytes = .read q)
    (hjudge : g.judge credential.header.1 q.incoming.head = .forward o)
    (hnone : steps.countP Step.isSend = 0) :
    c = .connected bytes ∨ c = .read q ∨ c = .admitted q o := by
  have hunsettled : ¬ c.isSettled = true := fun hc => by
    have := (h.of_forward hread hjudge).2 hc
    omega
  cases h with
  | connected => exact .inl rfl
  | read hread' =>
    cases hread.symm.trans hread'
    exact .inr (.inl rfl)
  | admitted hread' hjudge' =>
    cases hread.symm.trans hread'
    cases hjudge.symm.trans hjudge'
    exact .inr (.inr rfl)
  | waiting => cases hnone
  | gone | unread | refused | unsendable | lost | replied | delivered | closed =>
    exact absurd rfl hunsettled

end Courses

end Call

/-! ## Whatever a server goes through -/

namespace Server

/-- How often a call has been handed over to be sent. -/
def handovers (id : Nat) (steps : List Step) : Nat := (own id steps).countP Call.Step.isSend

/-- The step of a call can be taken by the server, and the call is where the step leads. -/
theorem exists_step?_of_leads {s : Server} {id : Nat} {c : Call} {x : Call.Step}
    {p : Call.Progress} (hcall : s.call? id = some c)
    (hx : Call.Leads s.gateway s.credential (s.phase ≠ .serving) c x p) :
    ∃ t, s.step? (.call id x) = some t ∧ t.call? id = some p.call ∧ t.gateway = s.gateway ∧
      t.credential = s.credential :=
  ⟨_, step?_eq_some_iff.2 (.call hcall hx), (call?_put_of_eq_some hcall p.call id).trans (if_pos rfl),
    rfl, rfl⟩

section Sending

variable {g : Gateway} {credential : Credential} {socket : Text} {harbour : Harbour}
  {steps : List Step} {s : Server}

/-- A request that goes on and has not been sent can be sent, by the steps of its own call. -/
theorem exists_send (h : (start g credential socket harbour).run? steps = some s) {id : Nat}
    {bytes : Bytes} {q : Asked} {o : Outbound} (hconnect : .connect id bytes ∈ steps)
    (hread : Call.reading bytes = .read q)
    (hjudge : g.judge credential.header.1 q.incoming.head = .forward o)
    (hnone : handovers id steps = 0) : ∃ (more : List Call.Step) (t : Server),
      s.run? (more.map (.call id)) = some t ∧ .send true ∈ more := by
  have htracks := tracks_of_run? h
  obtain ⟨c, events, hcall, hcourse⟩ := htracks.course_of_connect hconnect
  have hadmitted {s : Server} (hcall : s.call? id = some (.admitted q o)) :
      ∃ t, s.run? [.call id (.send true)] = some t := by
    obtain ⟨t, ht, -⟩ := exists_step?_of_leads hcall (.send q o true)
    exact ⟨t, Option.bind_eq_some_iff.2 ⟨t, ht, rfl⟩⟩
  have hjudged {s : Server} (hg : s.gateway = g) (hc : s.credential = credential)
      (hcall : s.call? id = some (.read q)) :
      ∃ t, s.run? [.call id .judge, .call id (.send true)] = some t := by
    obtain ⟨t, ht, hnext, -⟩ := exists_step?_of_leads hcall (.judge q)
    rcases Call.judging_cases s.gateway s.credential q with ⟨o', ho', hj⟩ | ⟨hnot, -⟩
    · rw [hg, hc] at ho'
      cases hjudge.symm.trans ho'
      rw [hj] at hnext
      obtain ⟨u, hu⟩ := hadmitted hnext
      exact ⟨u, Option.bind_eq_some_iff.2 ⟨t, ht, hu⟩⟩
    · rw [hg, hc] at hnot
      exact absurd hjudge (hnot o)
  rcases hcourse.exists_send hread hjudge hnone with rfl | rfl | rfl
  · obtain ⟨t, ht, hnext, hg, hc⟩ := exists_step?_of_leads hcall (.read bytes)
    rw [hread] at hnext
    obtain ⟨u, hu⟩ := hjudged (hg.trans htracks.gateway_eq) (hc.trans htracks.credential_eq) hnext
    exact ⟨[.read, .judge, .send true], u, Option.bind_eq_some_iff.2 ⟨t, ht, hu⟩, by simp⟩
  · obtain ⟨u, hu⟩ := hjudged htracks.gateway_eq htracks.credential_eq hcall
    exact ⟨[.judge, .send true], u, hu, by simp⟩
  · obtain ⟨u, hu⟩ := hadmitted hcall
    exact ⟨[.send true], u, hu, by simp⟩

/-- What has reached the service of a call whose request goes on. -/
theorem reachedFor_of_forward (h : (start g credential socket harbour).run? steps = some s)
    {id : Nat} {bytes : Bytes} {q : Asked} {o : Outbound} (hconnect : .connect id bytes ∈ steps)
    (hread : Call.reading bytes = .read q)
    (hjudge : g.judge credential.header.1 q.incoming.head = .forward o) :
    s.reachedFor id =
      if o.isSendable = true ∧ .send true ∈ own id steps then [o.sent q.body] else [] := by
  obtain ⟨c, events, -, hcourse⟩ := (tracks_of_run? h).course_of_connect hconnect
  rw [hcourse.sent_eq, Call.arrivals_of_forward hread hjudge]

end Sending

/-- The steps have handed over the eligible requests, each at most once, and once on the way to its
response: the outbound request is what has reached the service, if it can be sent and has arrived,
and as long as it has not been handed over that can still be done.  Every other request has nothing
behind it but the answer 404. -/
structure HandsOver (c : ServiceConfig) (t : Target) (credential : Credential)
    (steps : List Step) (s : Server) : Prop where
  eligible : ∀ id bytes q, .connect id bytes ∈ steps → Call.reading bytes = .read q →
    c.Eligible q.incoming.head.uri.path →
      handovers id steps ≤ 1 ∧ (∀ r, s.call? id = some (.over r) → handovers id steps = 1) ∧
      s.reachedFor id =
        if (t.outbound credential.header.1 q.incoming.head).isSendable = true ∧
            .send true ∈ own id steps then
          [(t.outbound credential.header.1 q.incoming.head).sent q.body]
        else []
  possible : ∀ id bytes q, .connect id bytes ∈ steps → Call.reading bytes = .read q →
    c.Eligible q.incoming.head.uri.path → handovers id steps = 0 →
      ∃ (more : List Call.Step) (u : Server), s.run? (more.map (.call id)) = some u ∧
        u.reachedFor id =
          if (t.outbound credential.header.1 q.incoming.head).isSendable = true then
            [(t.outbound credential.header.1 q.incoming.head).sent q.body]
          else []
  refused : ∀ id bytes q, .connect id bytes ∈ steps → Call.reading bytes = .read q →
    ¬ c.Eligible q.incoming.head.uri.path →
      handovers id steps = 0 ∧ s.reachedFor id = [] ∧
      (∀ r, s.call? id = some (.over r) → r.map (·.status) = some 404)
  unread : ∀ id bytes, .connect id bytes ∈ steps → (∀ q, Call.reading bytes ≠ .read q) →
    handovers id steps = 0 ∧ s.reachedFor id = []
  unconnected : ∀ id, (∀ bytes, .connect id bytes ∉ steps) →
    handovers id steps = 0 ∧ s.reachedFor id = []

theorem handsOver_of_run? {c : ServiceConfig} {g : Gateway} (hc : c.HasPlainStart)
    (hg : Gateway.ofConfig c = .ok g) {credential : Credential} {socket : Text} {harbour : Harbour}
    {steps : List Step} {s : Server}
    (h : (start g credential socket harbour).run? steps = some s) :
    s.HandsOver c g.target credential steps := by
  have htracks := tracks_of_run? h
  have hforward {q : Asked} (heligible : c.Eligible q.incoming.head.uri.path) :
      g.judge credential.header.1 q.incoming.head =
        .forward (g.target.outbound credential.header.1 q.incoming.head) :=
    (Gateway.judge_eq_forward_iff_eligible hc hg).2 ⟨heligible, rfl⟩
  constructor
  · intro id bytes q hconnect hread heligible
    obtain ⟨call, events, hcall, hcourse⟩ := htracks.course_of_connect hconnect
    obtain ⟨hmost, hone⟩ := hcourse.of_forward hread (hforward heligible)
    refine ⟨hmost, fun r hr => hone ?_,
      reachedFor_of_forward h hconnect hread (hforward heligible)⟩
    cases hcall.symm.trans hr
    rfl
  · intro id bytes q hconnect hread heligible hnone
    obtain ⟨more, u, hrun, hsend⟩ := exists_send h hconnect hread (hforward heligible) hnone
    refine ⟨more, u, hrun, ?_⟩
    have hown : .send true ∈ own id (steps ++ more.map (.call id)) := by
      refine List.mem_filterMap.2 ⟨.call id (.send true), ?_, if_pos rfl⟩
      exact List.mem_append_right _ (List.mem_map_of_mem hsend)
    rw [reachedFor_of_forward (run?_append h hrun) (List.mem_append_left _ hconnect) hread
      (hforward heligible)]
    simp only [hown, and_true]
  · intro id bytes q hconnect hread heligible
    have hnot : ∀ o, g.judge credential.header.1 q.incoming.head ≠ .forward o :=
      Gateway.judge_of_not_eligible hc hg heligible
    obtain ⟨call, events, -, hcourse⟩ := htracks.course_of_connect hconnect
    obtain ⟨hnone, hsent⟩ := hcourse.of_not_forward fun q' hread' => by
      cases hread.symm.trans hread'
      exact hnot
    refine ⟨hnone, hsent, fun r hr => ?_⟩
    obtain ⟨closing, -, hout⟩ := hasAnswered_of_run? h id bytes r hconnect hr
    obtain ⟨out, hdelivered, hstatus, -⟩ :=
      Call.exists_delivered closing q (r := .notFound) (by decide) (by decide)
    rw [Call.outcome_of_read hread, Call.responseTo_of_refused _ hnot, hdelivered] at hout
    rw [hout, Option.map_some, hstatus]
    rfl
  · intro id bytes hconnect hread
    obtain ⟨call, events, -, hcourse⟩ := htracks.course_of_connect hconnect
    exact hcourse.of_not_forward fun q hq => absurd hq (hread q)
  · intro id hconnect
    have hidle : s.call? id = none := by
      cases hcall : s.call? id with
      | none => rfl
      | some call =>
        obtain ⟨b, events, hb, -⟩ := htracks.course id call hcall
        exact absurd ((hb b).2 rfl) (hconnect b)
    obtain ⟨-, hown, hsent⟩ := htracks.idle id hidle
    exact ⟨by rw [handovers, hown]; rfl, hsent⟩

end Server

/-! ## The eligible requests -/

namespace Gateway

/-- The gateway hands over the eligible requests, each once, as what its target makes of them, and
answers every other one 404: of one request by itself, and of the calls in whatever its server goes
through. -/
structure HandsOverEligible (g : Gateway) (c : ServiceConfig) : Prop where
  judged : ∀ (authorization : HeaderValue) (r : RequestHead) (o : Outbound),
    g.judge authorization r = .forward o ↔
      c.Eligible r.uri.path ∧ o = g.target.outbound authorization r
  sendable : ∀ (authorization : HeaderValue) (r : RequestHead),
    (g.target.outbound authorization r).isSendable = true ↔
      ((g.target.url r.uri).scheme = "http" ∨ (g.target.url r.uri).scheme = "https") ∧
        ∃ u, RequestUri.parse (g.target.url r.uri).withoutUser.text.utf8 = .ok u
  /-- What comes of an eligible request: whether its outbound request has reached the service, what
  the caller gets, and what is reported. -/
  handed : ∀ (credential : Credential) (service : Service) (n : Nat) (r : RequestHead)
    (body : BodyStream), c.Eligible r.uri.path →
      let o := g.target.outbound credential.header.1 r
      let reply := service n (o.sent body)
      (g.answer credential service n r body).sent =
        (if o.isSendable = true ∧ reply ≠ .unreachable then some (o.sent body) else none) ∧
      (g.answer credential service n r body).response =
        (if o.isSendable = true then o.response reply else .badGateway).toMethod r.method ∧
      (g.answer credential service n r body).events = credential.header.2 ++
        o.sending :: if o.isSendable = true then o.reported reply else [o.failed .url]
  once : ∀ (credential : Credential) (service : Service) (n : Nat) (r : RequestHead)
    (body : BodyStream), (g.answer credential service n r body).events.countP Log.Event.isSending =
      if c.Eligible r.uri.path then 1 else 0
  refused : ∀ (credential : Credential) (service : Service) (n : Nat) (r : RequestHead)
    (body : BodyStream), ¬ c.Eligible r.uri.path →
      (g.answer credential service n r body).sent = none ∧
        (g.answer credential service n r body).response.status = 404
  run : ∀ (credential : Credential) (socket : Text) (harbour : Harbour)
    (steps : List Server.Step) (s : Server),
      (Server.start g credential socket harbour).run? steps = some s →
        s.HandsOver c g.target credential steps

/-- Where the start is plain, the gateway is there and hands over the eligible requests. -/
theorem handsOverEligible_of_plain {c : ServiceConfig} {t : Target} (hc : c.HasPlainStart)
    (ht : Target.ofConfig c = .ok t) :
    ∃ g, ofConfig c = .ok g ∧ g.target = t ∧ g.HandsOverEligible c := by
  obtain ⟨pattern, hp⟩ := Option.isSome_iff_exists.1 (PathPattern.isSome_parse?_iff.2
    (PathPattern.isPattern_of_isLiteral hc.slash hc.literal hc.new))
  have hg : ofConfig c = .ok ⟨t, pattern⟩ := ofConfig_eq_ok_iff.2 ⟨ht, hp⟩
  refine ⟨_, hg, rfl, ?_, ?_, ?_, ?_, ?_, ?_⟩
  · intro authorization r o
    exact (judge_eq_forward_iff_eligible hc hg).trans (and_congr_right' eq_comm)
  · intro authorization r
    exact Outbound.isSendable_iff _
  · intro credential service n r body h
    rw [answer_of_eligible hc hg credential service n body h]
    unfold Outbound.forward
    split
    · rename_i hsend
      refine ⟨?_, by simp only [hsend, if_true], by simp only [hsend, if_true]⟩
      simp only [hsend, true_and, ite_not]
    · rename_i hsend
      simp only [hsend, false_and, if_false, Bool.false_eq_true]
      exact ⟨trivial, trivial, trivial⟩
  · intro credential service n r body
    split
    · rename_i h
      rw [answer_of_eligible hc hg credential service n body h, List.countP_append,
        Credential.countP_isSending_header, Outbound.countP_isSending_forward]
    · rename_i h
      exact (answer_of_not_eligible hc hg credential service n body h).1
  · intro credential service n r body h
    obtain ⟨-, hsent, hresponse⟩ := answer_of_not_eligible hc hg credential service n body h
    rw [hresponse]
    exact ⟨hsent, Response.status_toMethod _ _⟩
  · intro credential socket harbour steps s h
    exact Server.handsOver_of_run? hc hg h

/-- The defaults: two slashes behind the start are eligible, a longer name, another case and an
encoded letter are not. -/
theorem handsOverEligible_loopback :
    ServiceConfig.loopback.HasPlainStart ∧ Target.ofConfig .loopback = .ok .loopback ∧
      ServiceConfig.loopback.Eligible "/openai//x" ∧
      (∀ path ∈ ["/openaix", "/OpenAI/x", "/%6fpenai/x", "*", ""].map String.toList,
        ¬ ServiceConfig.loopback.Eligible path) ∧
      ∃ g, ofConfig .loopback = .ok g ∧ g.target = .loopback ∧ g.HandsOverEligible .loopback := by
  have hplain : ServiceConfig.loopback.HasPlainStart := ⟨rfl, by decide, by decide⟩
  have htarget : Target.ofConfig .loopback = .ok .loopback :=
    (ofConfig_eq_ok_iff.1 ofConfig_loopback).1
  exact ⟨hplain, htarget, ⟨by decide, by cbv⟩, by decide,
    handsOverEligible_of_plain hplain htarget⟩

end Gateway

end CredentialGateway
