import CredentialGateway.Proofs.CallOutcome
import CredentialGateway.Proofs.Eligibility
import CredentialGateway.Proofs.GivenLength

/-!
# The reply as its caller gets it

A reply is relayed if its caller gets its status, its headers apart from those of a hop, and its
body as far as it came; what the caller's own hop adds is the framing of the body and a word about
the connection.  The gateway relays every reply, but a length that the reply gives goes on with it,
and the caller's hop keeps to that length whatever the body is.  A length that is given again does
not go on again, and lengths that are not one number leave the caller without a response.

    there is a response ↔ the lengths that go on agree     (Call.isSome_delivered_relay_iff)
    relayed ↔ the length that goes on, if any, fits the body          (Call.relays_once_iff)
    no reply → 502 without a body                                (Call.badGateway_delivered)
    whatever a run has been                                          (Gateway.relaysReplies)
-/

namespace CredentialGateway

/-- The response is the reply as the service gave it. -/
structure Response.Relays (r : Response) (method : Text) (status : Nat) (h : Headers)
    (body : Bytes) (complete : Bool) : Prop where
  status_eq : r.status = status
  headers_eq : ∃ own, r.headers = h.withoutHopByHop ++ own ∧
    ∀ field ∈ own, field.1 = .transferEncoding ∨ field.1 = .connection
  body_eq : r.body = if Http.isBodiless method status then [] else body
  complete_eq : r.complete = (Http.isBodiless method status || complete)

/-- The headers of the hop are none of the reply's. -/
theorem Response.Relays.congr {r : Response} {method : Text} {status : Nat} {h h' : Headers}
    {body : Bytes} {complete : Bool} (hsame : h.withoutHopByHop = h'.withoutHopByHop)
    (hrelays : r.Relays method status h body complete) :
    r.Relays method status h' body complete :=
  ⟨hrelays.status_eq, hsame ▸ hrelays.headers_eq, hrelays.body_eq, hrelays.complete_eq⟩

namespace Http

/-- The lengths are one number, if there are any.  In front of no body there may be one that is
none. -/
def LengthsAgree (method : Text) (h : Headers) : Prop :=
  if method = "HEAD" then (Headers.values .contentLength h).length ≤ 1
  else ∃ n, ∀ v ∈ Headers.values .contentLength h, length? v = some n

/-- A length is true to a body that is whole if it is the body's, and to one that has broken off if
more was to come. -/
def LengthFits (n : Nat) (body : Bytes) (complete : Bool) : Prop :=
  if complete then body.length = n else body.length < n

instance (n : Nat) (body : Bytes) (complete : Bool) : Decidable (LengthFits n body complete) :=
  inferInstanceAs (Decidable (if complete then _ else _))

/-- What a hop that keeps to a length makes of a body. -/
theorem take_eq_iff_lengthFits (n : Nat) (body : Bytes) (complete : Bool) :
    body.take n = body ∧ decide (n ≤ body.length) = complete ↔ LengthFits n body complete := by
  rw [List.take_eq_self_iff]
  unfold LengthFits
  cases complete with
  | true =>
    simp only [decide_eq_true_eq, if_true]
    omega
  | false =>
    simp only [decide_eq_false_iff_not, Bool.false_eq_true, if_false]
    omega

/-- A head can be written if its lengths agree. -/
theorem isWritable_iff {method : Text} (hmethod : method ≠ "CONNECT") {status : Nat} {h : Headers} :
    isWritable method status h = true ↔ LengthsAgree method h := by
  have htunnel : opensTunnel method status = false := by
    rw [opensTunnel, decide_eq_false hmethod, Bool.false_and, Bool.false_and]
  unfold isWritable LengthsAgree
  rw [htunnel]
  cases hcontains : Headers.contains .contentLength h with
  | false =>
    have hnone := Headers.values_eq_nil_iff.2 hcontains
    simp [hnone]
  | true =>
    have hsome : Headers.values .contentLength h ≠ [] := fun hnone => by
      cases (Headers.values_eq_nil_iff.1 hnone).symm.trans hcontains
    simp only [Bool.not_true, Bool.not_false, Bool.true_and, Bool.false_or]
    split
    · have hpos := List.length_pos_iff.2 hsome
      rw [decide_eq_true_iff]
      omega
    · simp only [Option.isSome_iff_exists, givenLength?_eq_some_iff, hsome, ne_eq, not_false_eq_true,
        true_and]

/-- What a connection adds is the framing and the word about the connection. -/
theorem headers_overConnection {request : Incoming} {r out : Response}
    (hout : overConnection request r = some out) :
    ∃ own, out.headers = Headers.once .contentLength r.headers ++ own ∧
      ∀ field ∈ own, field.1 = .transferEncoding ∨ field.1 = .connection := by
  unfold overConnection at hout
  dsimp only at hout
  split at hout
  · cases hout
    refine ⟨_, List.append_assoc .., fun field hfield => ?_⟩
    rcases List.mem_append.1 hfield with hfield | hfield
    · unfold framingField at hfield
      split at hfield
      · cases hfield
      · obtain rfl := List.mem_singleton.1 hfield
        exact .inl rfl
    · unfold connectionField at hfield
      split at hfield
      · obtain rfl := List.mem_singleton.1 hfield
        exact .inr rfl
      · obtain rfl := List.mem_singleton.1 hfield
        exact .inr rfl
      · cases hfield
  · cases hout

/-- Status and body of what goes over a connection. -/
theorem parts_overConnection {request : Incoming} {r out : Response}
    (hout : overConnection request r = some out) :
    out.status = r.status ∧ (out.body, out.complete) = carried request.head.method r := by
  unfold overConnection at hout
  dsimp only at hout
  split at hout
  · cases hout
    exact ⟨rfl, rfl⟩
  · cases hout

end Http

/-- One length agrees with itself. -/
theorem Headers.HasLength.lengthsAgree {h : Headers} {l : Option Nat} (hl : h.HasLength l)
    (method : Text) : Http.LengthsAgree method h := by
  unfold Http.LengthsAgree
  split
  · exact hl.length_le
  · refine ⟨l.getD 0, fun v hv => ?_⟩
    have hmem := List.mem_map_of_mem (f := Http.length?) hv
    rw [hl] at hmem
    cases l with
    | none => simp at hmem
    | some n => simpa using hmem

/-! ## One reply -/

theorem Outbound.status_relay (method : Text) (status : Nat) (h : Headers) (body : Bytes)
    (complete : Bool) : (relay method status h body complete).status = status := by
  unfold relay
  split <;> rfl

theorem Outbound.headers_relay (method : Text) (status : Nat) (h : Headers) (body : Bytes)
    (complete : Bool) :
    (relay method status h body complete).headers = h.withoutHopByHop := by
  unfold relay
  split <;> rfl

/-- A relayed reply suits its method already. -/
theorem Outbound.toMethod_relay (method : Text) (status : Nat) (h : Headers) (body : Bytes)
    (complete : Bool) :
    (relay method status h body complete).toMethod method =
      relay method status h body complete := by
  unfold Response.toMethod
  split
  · rename_i hhead
    simp [relay, Http.isBodiless, hhead]
  · rfl

/-- How far a relayed reply goes over a connection. -/
theorem Http.carried_relay (method : Text) (status : Nat) (h : Headers) (body : Bytes)
    (complete : Bool) : carried method (Outbound.relay method status h body complete) =
      if isBodiless method status then ([], true)
      else match givenLength? h.withoutHopByHop with
        | none => (body, complete)
        | some n => (body.take n, n ≤ body.length) := by
  unfold carried
  rw [Outbound.status_relay, Outbound.headers_relay]
  split
  · rfl
  · rename_i hbodiless
    rw [Outbound.relay, if_neg hbodiless]
    cases givenLength? h.withoutHopByHop <;> rfl

namespace Call

/-- What a caller has in the end of a reply, whatever lengths go on with it. -/
structure Relayed (r : Option Response) (method : Text) (status : Nat) (h : Headers) (body : Bytes)
    (complete : Bool) : Prop where
  /-- There is a response if the lengths agree. -/
  isSome_iff : r.isSome = true ↔ Http.LengthsAgree method h.withoutHopByHop
  /-- It is the reply with its length said once, if no length is in the way of the body. -/
  relays_iff : ∀ response, r = some response →
    (response.Relays method status (h.once .contentLength) body complete ↔
      Http.isBodiless method status = true ∨
        ∀ n, Http.givenLength? h.withoutHopByHop = some n → Http.LengthFits n body complete)

section Delivery

variable {q : Asked} {method : Text} {status : Nat} {h : Headers} {body : Bytes} {complete : Bool}
  {closing : Bool} {out : Response}

/-- A reply comes to a response if the lengths that go on agree. -/
theorem isSome_delivered_relay_iff (hmethod : q.incoming.head.method = method)
    (hconnect : method ≠ "CONNECT") (closing : Bool) :
    (delivered closing (some q) (Outbound.relay method status h body complete)).isSome = true ↔
      Http.LengthsAgree method h.withoutHopByHop := by
  rw [← Http.isWritable_iff hconnect, delivered, Http.overConnection, hmethod,
    Outbound.headers_relay, Outbound.status_relay]
  dsimp only
  split
  · rename_i hwritable
    exact iff_of_true rfl hwritable
  · rename_i hwritable
    exact iff_of_false (by simp) hwritable

/-- Status and headers are always relayed, a length once; what becomes of the body decides. -/
theorem relays_iff_carried (hmethod : q.incoming.head.method = method)
    (hout : delivered closing (some q) (Outbound.relay method status h body complete) = some out) :
    out.Relays method status (h.once .contentLength) body complete ↔
      Http.carried method (Outbound.relay method status h body complete) =
        if Http.isBodiless method status then ([], true) else (body, complete) := by
  subst hmethod
  obtain ⟨hstatus, hbody⟩ := Http.parts_overConnection hout
  obtain ⟨own, hheaders, hown⟩ := Http.headers_overConnection hout
  rw [Outbound.headers_relay, ← Headers.withoutHopByHop_once (by decide)] at hheaders
  rw [Outbound.status_relay] at hstatus
  rw [← hbody]
  constructor
  · intro hrelays
    rw [hrelays.body_eq, hrelays.complete_eq]
    cases Http.isBodiless q.incoming.head.method status <;> rfl
  · intro hparts
    refine ⟨hstatus, ⟨own, hheaders, hown⟩, ?_, ?_⟩
    · refine (congrArg Prod.fst hparts).trans ?_
      split <;> rfl
    · refine (congrArg Prod.snd hparts).trans ?_
      cases Http.isBodiless q.incoming.head.method status <;> rfl

/-- What comes of a reply is the reply, its length said once, if it has no body or the length that
goes on fits the body. -/
theorem relays_once_iff (hmethod : q.incoming.head.method = method)
    (hout : delivered closing (some q) (Outbound.relay method status h body complete) = some out) :
    out.Relays method status (h.once .contentLength) body complete ↔
      Http.isBodiless method status = true ∨
        ∀ n, Http.givenLength? h.withoutHopByHop = some n → Http.LengthFits n body complete := by
  rw [relays_iff_carried hmethod hout, Http.carried_relay]
  cases hbodiless : Http.isBodiless method status with
  | true => simp
  | false =>
    cases Http.givenLength? h.withoutHopByHop with
    | none => simp
    | some n => simpa using Http.take_eq_iff_lengthFits n body complete

theorem relayed_delivered (hmethod : q.incoming.head.method = method)
    (hconnect : method ≠ "CONNECT") (closing : Bool) :
    Relayed (delivered closing (some q) (Outbound.relay method status h body complete)) method
      status h body complete where
  isSome_iff := isSome_delivered_relay_iff hmethod hconnect closing
  relays_iff _ hout := relays_once_iff hmethod hout

/-- A reply with one length at most comes to a response, and is relayed over a connection if, and
only if, it has no body or the length fits the body. -/
theorem relays_delivered_iff (hmethod : q.incoming.head.method = method)
    (hconnect : method ≠ "CONNECT") (closing : Bool) {l : Option Nat}
    (hl : h.withoutHopByHop.HasLength l) : ∃ out,
      delivered closing (some q) (Outbound.relay method status h body complete) = some out ∧
        (out.Relays method status h body complete ↔ Http.isBodiless method status = true ∨
          ∀ n, l = some n → Http.LengthFits n body complete) := by
  have hsame : (h.once .contentLength).withoutHopByHop = h.withoutHopByHop := by
    rw [Headers.withoutHopByHop_once (by decide), Headers.once_of_length_le hl.length_le]
  have hrelayed : Relayed (delivered closing (some q)
      (Outbound.relay method status h body complete)) method status h body complete :=
    relayed_delivered hmethod hconnect closing
  obtain ⟨out, hout⟩ := Option.isSome_iff_exists.1 (hrelayed.isSome_iff.2 (hl.lengthsAgree method))
  refine ⟨out, hout, ?_⟩
  rw [← hl.givenLength?, ← hrelayed.relays_iff out hout]
  exact ⟨.congr hsame.symm, .congr hsame⟩

/-- A reply whose length is true to its body is relayed. -/
theorem relays_delivered_of_fits (hmethod : q.incoming.head.method = method)
    (hconnect : method ≠ "CONNECT") (closing : Bool) {l : Option Nat} (hl : h.HasLength l)
    (hfits : ∀ n, l = some n → Http.LengthFits n body complete) : ∃ out,
      delivered closing (some q) (Outbound.relay method status h body complete) = some out ∧
        out.Relays method status h body complete := by
  refine (relays_delivered_iff hmethod hconnect closing hl.withoutHopByHop).imp
    fun out ⟨hout, hrelays⟩ => ⟨hout, hrelays.2 (.inr fun n hn => ?_)⟩
  split at hn
  · cases hn
  · exact hfits n hn

/-- The gateway's own answer to a request without a reply says so, and no more. -/
theorem badGateway_delivered (closing : Bool) (q : Asked) : ∃ out,
    delivered closing (some q) (Response.badGateway.toMethod q.incoming.head.method) = some out ∧
      out.status = 502 ∧ out.body = [] ∧ out.complete = true := by
  obtain ⟨out, hout, hstatus, hcomplete, hbody⟩ :=
    exists_delivered closing q (r := .badGateway) (by decide) (by decide)
  refine ⟨out, hout, hstatus, hbody.trans ?_, hcomplete⟩
  split <;> rfl

end Delivery

/-! ## One call -/

/-- A request that goes on to the service, as the gateway makes it. -/
structure Forwards (g : Gateway) (credential : Credential) (bytes : Bytes) (q : Asked)
    (o : Outbound) : Prop where
  read : reading bytes = .read q
  judged : g.judge credential.header.1 q.incoming.head = .forward o
  /-- No tunnel is asked for. -/
  method : q.incoming.head.method ≠ "CONNECT"

section Courses

variable {g : Gateway} {credential : Credential} {bytes : Bytes} {c : Call} {steps : List Step}
  {sent : List Sent} {events : List Log.Event}

/-- A reply comes once, to a request that could be sent. -/
theorem Course.of_reply_mem (h : Course g credential bytes c steps sent events) {reply : Reply}
    (hreply : .reply reply ∈ steps) : replyIn steps = reply ∧ ∀ q o, reading bytes = .read q →
      g.judge credential.header.1 q.incoming.head = .forward o → o.isSendable = true := by
  induction h with
  | connected | gone | unread | read | refused | admitted | unsendable | lost | waiting =>
    simp at hreply
  | replied hread hjudge hsend =>
    obtain rfl : reply = _ := by simpa using hreply
    refine ⟨rfl, fun q o hread' hjudge' => ?_⟩
    cases hread.symm.trans hread'
    cases hjudge.symm.trans hjudge'
    exact hsend
  | delivered h hout ih | closed h hout ih =>
    rw [replyIn_append rfl]
    exact ih (by simpa using hreply)

/-- Without a response from the service there is no reply to relay. -/
theorem replyIn_of_no_response
    (h : ∀ status h body complete, .reply (.response status h body complete) ∉ steps) :
    replyIn steps = .unreachable ∨ replyIn steps = .hangUp := by
  unfold replyIn
  cases hfind : steps.findSome? Step.reply? with
  | none => exact .inl rfl
  | some reply =>
    obtain ⟨x, hx, hreply⟩ := List.exists_of_findSome?_eq_some hfind
    cases x with
    | reply r =>
      cases hreply
      cases reply with
      | unreachable => exact .inl rfl
      | hangUp => exact .inr rfl
      | response status headers body complete => exact absurd hx (h status headers body complete)
    | read | judge | send | deliver | close => cases hreply

variable {q : Asked} {o : Outbound}

/-- What comes of a request that is replied to. -/
theorem Forwards.outcome_of_response (hforwards : Forwards g credential bytes q o)
    (hsend : o.isSendable = true) (status : Nat) (h : Headers) (body : Bytes) (complete : Bool)
    (closing : Bool) : outcome g credential (.response status h body complete) closing bytes =
      delivered closing (some q)
        (Outbound.relay q.incoming.head.method status h body complete) := by
  obtain ⟨-, -, rfl⟩ := Gateway.judge_eq_forward_iff.1 hforwards.judged
  rw [outcome_of_read hforwards.read, responseTo_of_forward _ hforwards.judged, if_pos hsend]
  exact congrArg (delivered closing (some q)) (Outbound.toMethod_relay ..)

/-- What comes of a request that is not. -/
theorem Forwards.outcome_of_none (hforwards : Forwards g credential bytes q o) {reply : Reply}
    (hreply : reply = .unreachable ∨ reply = .hangUp) (closing : Bool) :
    outcome g credential reply closing bytes =
      delivered closing (some q) (Response.badGateway.toMethod q.incoming.head.method) := by
  rw [outcome_of_read hforwards.read, responseTo_of_forward _ hforwards.judged]
  rcases hreply with rfl | rfl <;> cases o.isSendable <;> rfl

end Courses

end Call

/-! ## Whatever a server goes through -/

namespace Server

variable {g : Gateway} {credential : Credential} {socket : Text} {harbour : Harbour}
  {steps : List Step} {s : Server}

/-- What a caller has in the end of a reply to its request. -/
theorem delivered_of_reply (h : (start g credential socket harbour).run? steps = some s) {id : Nat}
    {bytes : Bytes} {q : Asked} {o : Outbound} (hconnect : .connect id bytes ∈ steps)
    (hforwards : Call.Forwards g credential bytes q o) {status : Nat} {headers : Headers}
    {body : Bytes} {complete : Bool}
    (hreply : .reply (.response status headers body complete) ∈ own id steps)
    {r : Option Response} (hover : s.call? id = some (.over r)) : ∃ closing,
      Call.delivered closing (some q)
        (Outbound.relay q.incoming.head.method status headers body complete) = r := by
  obtain ⟨c, events, -, hcourse⟩ := (tracks_of_run? h).course_of_connect hconnect
  obtain ⟨hreplyIn, hsend⟩ := hcourse.of_reply_mem hreply
  obtain ⟨closing, -, hr⟩ := hasAnswered_of_run? h id bytes r hconnect hover
  rw [hreplyIn, hforwards.outcome_of_response (hsend q o hforwards.read hforwards.judged)] at hr
  exact ⟨closing, hr.symm⟩

/-- Where no reply has come, a caller has been told so in the end. -/
theorem badGateway_of_no_reply (h : (start g credential socket harbour).run? steps = some s)
    {id : Nat} {bytes : Bytes} {q : Asked} {o : Outbound} (hconnect : .connect id bytes ∈ steps)
    (hforwards : Call.Forwards g credential bytes q o) (hnone : ∀ status h body complete,
      .reply (.response status h body complete) ∉ own id steps) {r : Option Response}
    (hover : s.call? id = some (.over r)) : ∃ response, r = some response ∧
      response.status = 502 ∧ response.body = [] ∧ response.complete = true := by
  obtain ⟨closing, -, hr⟩ := hasAnswered_of_run? h id bytes r hconnect hover
  rw [hforwards.outcome_of_none (Call.replyIn_of_no_response hnone)] at hr
  rw [hr]
  exact Call.badGateway_delivered closing q

end Server

namespace Gateway

/-- The callers of requests that are forwarded get the replies to them, as far as the lengths in the
replies fit; where no reply comes they get 502.  Nothing is sent twice. -/
structure RelaysReplies (g : Gateway) (credential : Credential) (socket : Text)
    (harbour : Harbour) : Prop where
  once : ∀ steps s, (Server.start g credential socket harbour).run? steps = some s →
    ∀ id bytes q o, .connect id bytes ∈ steps → Call.Forwards g credential bytes q o →
      (Server.own id steps).countP Call.Step.isSend ≤ 1 ∧ (s.reachedFor id).length ≤ 1
  reply : ∀ steps s, (Server.start g credential socket harbour).run? steps = some s →
    ∀ id bytes q o, .connect id bytes ∈ steps → Call.Forwards g credential bytes q o →
      ∀ status h body complete, 200 ≤ status →
        .reply (.response status h body complete) ∈ Server.own id steps →
      ∀ r, s.call? id = some (.over r) →
        (∀ l, h.withoutHopByHop.HasLength l → ∃ response, r = some response ∧
          (response.Relays q.incoming.head.method status h body complete ↔
            Http.isBodiless q.incoming.head.method status = true ∨
              ∀ n, l = some n → Http.LengthFits n body complete)) ∧
        ∀ l, h.HasLength l → (∀ n, l = some n → Http.LengthFits n body complete) →
          ∃ response, r = some response ∧
            response.Relays q.incoming.head.method status h body complete
  lengths : ∀ steps s, (Server.start g credential socket harbour).run? steps = some s →
    ∀ id bytes q o, .connect id bytes ∈ steps → Call.Forwards g credential bytes q o →
      ∀ status h body complete, 200 ≤ status →
        .reply (.response status h body complete) ∈ Server.own id steps →
      ∀ r, s.call? id = some (.over r) →
        Call.Relayed r q.incoming.head.method status h body complete
  noReply : ∀ steps s, (Server.start g credential socket harbour).run? steps = some s →
    ∀ id bytes q o, .connect id bytes ∈ steps → Call.Forwards g credential bytes q o →
      (∀ status h body complete,
        .reply (.response status h body complete) ∉ Server.own id steps) →
      ∀ r, s.call? id = some (.over r) → ∃ response, r = some response ∧
        response.status = 502 ∧ response.body = [] ∧ response.complete = true

theorem relaysReplies (g : Gateway) (credential : Credential) (socket : Text)
    (harbour : Harbour) : g.RelaysReplies credential socket harbour where
  once steps s h id bytes q o hconnect hforwards := by
    obtain ⟨c, events, -, hcourse⟩ := (Server.tracks_of_run? h).course_of_connect hconnect
    refine ⟨(hcourse.of_forward hforwards.read hforwards.judged).1, ?_⟩
    rw [Server.reachedFor_of_forward h hconnect hforwards.read hforwards.judged]
    split <;> simp
  reply steps s h id bytes q o hconnect hforwards status headers body complete hfinal hreply r
      hover := by
    obtain ⟨closing, rfl⟩ := Server.delivered_of_reply h hconnect hforwards hreply hover
    exact ⟨fun l hl => Call.relays_delivered_iff rfl hforwards.method closing hl,
      fun l hl hfits => Call.relays_delivered_of_fits rfl hforwards.method closing hl hfits⟩
  lengths steps s h id bytes q o hconnect hforwards status headers body complete hfinal hreply r
      hover := by
    obtain ⟨closing, rfl⟩ := Server.delivered_of_reply h hconnect hforwards hreply hover
    exact Call.relayed_delivered rfl hforwards.method closing
  noReply _ _ h _ _ _ _ hconnect hforwards hnone _ hover :=
    Server.badGateway_of_no_reply h hconnect hforwards hnone hover

end Gateway

/-! ## A length beside chunks -/

/-- Headers of a reply that comes in chunks and says a length as well. -/
def Headers.chunkedWithLength : Headers :=
  [(.transferEncoding, Http.chunkedValue), (.contentLength, ⟨Text.utf8 "5", false, by decide⟩)]

namespace Server

/-- A server relays such a reply, with ten bytes in its chunks. -/
def relayingChunked : Option Server :=
  let request : Http.Outgoing :=
    { method := Text.utf8 "GET", uri := Text.utf8 "/openai/x", headers := [], payload := .sized [] }
  (start .loopback ⟨"key"⟩ "gateway.sock" { tree := {}, home := [] }).run?
    [.connect 0 request.write, .call 0 .read, .call 0 .judge, .call 0 (.send true),
      .call 0 (.reply (.response 200 .chunkedWithLength (Text.utf8 "0123456789") true)),
      .call 0 .deliver]

theorem parts_relayingChunked : relayingChunked.map (fun s => ((s.reachedFor 0).length,
    ((s.call? 0).bind Call.response?).map fun r => (r.status, r.body, r.complete))) =
      some (1, some (200, Text.utf8 "01234", true)) := by
  decide +kernel

/-- Its caller has five of them, and no sign that more were to come. -/
theorem not_relays_chunkedWithLength : ∃ s r, relayingChunked = some s ∧
    (s.reachedFor 0).length = 1 ∧ (s.call? 0).bind Call.response? = some r ∧
      ¬ r.Relays "GET" 200 .chunkedWithLength (Text.utf8 "0123456789") true := by
  obtain ⟨s, hs, hparts⟩ := Option.map_eq_some_iff.1 parts_relayingChunked
  obtain ⟨hreached, hresponse⟩ := Prod.mk.inj hparts
  obtain ⟨r, hr, hparts⟩ := Option.map_eq_some_iff.1 hresponse
  refine ⟨s, r, hs, hreached, hr, fun hrelays => ?_⟩
  have hbody : r.body = Text.utf8 "01234" := congrArg (·.2.1) hparts
  exact absurd (hbody.symm.trans hrelays.body_eq) (by decide)

end Server

end CredentialGateway
