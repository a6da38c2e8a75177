import CredentialGateway.Call
import CredentialGateway.Proofs.GivenLength

/-!
# The request on the wire

What the service reads is the outbound request as the client writes it.  Method and headers are those
of the outbound request; the first line asks for path and query of its URL, or for its host and port
if a tunnel is wanted.  The client adds `Accept` if no value is there, and the chunks of a body whose
length does not go along.  A length that does cuts the body, and where a body is rare one of unknown
length is left out.

    sendable ↔ a URL of the web that is a request URI                   (Outbound.isSendable_iff)
    what is sent of a request, part by part                             (Target.isMadeOf_sent)
-/

namespace CredentialGateway

/-! ## Framing anew -/

namespace Outbound

/-- The body goes out in chunks. -/
def goesInChunks (method : Text) (h : Headers) (b : BodyStream) : Bool :=
  !b.absent && (Http.givenLength? h).isNone && !rarelyHasBody method

/-- Chunks are announced, and no other framing. -/
theorem framed_fst (method : Text) (h : Headers) (b : BodyStream) : (framed method h b).1 =
    if goesInChunks method h b then h.append .transferEncoding Http.chunkedValue else h := by
  unfold framed goesInChunks
  split
  · rename_i habsent
    simp [habsent]
  · rename_i habsent
    cases Http.givenLength? h with
    | some n => simp
    | none =>
      simp only
      split
      · rename_i hrarely
        simp [hrarely]
      · rename_i hrarely
        simp [habsent, hrarely]

/-- Only the length that goes along decides how much of a body does. -/
theorem framed_snd (method : Text) (h : Headers) (b : BodyStream) : (framed method h b).2 =
    if b.absent then some []
    else match Http.givenLength? h with
      | some n => if n ≤ b.bytes.length then some (b.bytes.take n) else none
      | none =>
        if rarelyHasBody method then some [] else if b.complete then some b.bytes else none := by
  unfold framed
  split
  · rfl
  · cases Http.givenLength? h with
    | some n => rfl
    | none =>
      simp only
      split <;> rfl

/-- The headers before the body is framed: there is always a value of `Accept`. -/
def accepting (h : Headers) : Headers :=
  if h.contains .accept then h else h.append .accept anything

theorem values_accepting (name : HeaderName) (h : Headers) :
    Headers.values name (accepting h) = Headers.values name h ++
      if name = .accept ∧ Headers.values .accept h = [] then [anything] else [] := by
  unfold accepting
  simp only [Headers.values_eq_nil_iff]
  split
  · rename_i haccept
    simp [haccept]
  · rename_i haccept
    simp [Headers.values_append, haccept, eq_comm]

/-- What is sent is a URL of the web that can be written as a request URI. -/
theorem isSendable_iff (o : Outbound) : o.isSendable = true ↔
    (o.url.scheme = "http" ∨ o.url.scheme = "https") ∧
      ∃ u, RequestUri.parse o.url.withoutUser.text.utf8 = .ok u := by
  have hparse : (RequestUri.parse o.url.withoutUser.text.utf8).isOk = true ↔
      ∃ u, RequestUri.parse o.url.withoutUser.text.utf8 = .ok u := by
    cases RequestUri.parse o.url.withoutUser.text.utf8 with
    | error e => exact iff_of_false Bool.false_ne_true fun ⟨_, h⟩ => nomatch h
    | ok u => exact iff_of_true rfl ⟨u, rfl⟩
  rw [isSendable, Bool.and_eq_true, Bool.or_eq_true, decide_eq_true_iff, decide_eq_true_iff, hparse]

/-- The parts of a request on the wire. -/
theorem sent_eq (o : Outbound) (b : BodyStream) : o.sent b =
    ⟨o.method, wireTarget o.method o.url, (framed o.method (accepting o.headers) b).1,
      (framed o.method (accepting o.headers) b).2⟩ := rfl

end Outbound

/-! ## What is sent -/

/-- The request is what the target makes of the one that was asked, part by part. -/
structure Sent.IsMadeOf (x : Sent) (t : Target) (authorization : HeaderValue) (q : Asked) :
    Prop where
  method_eq : x.method = q.incoming.head.method
  target_eq : x.target =
    if q.incoming.head.method = "CONNECT" then t.base.authority.elim [] Authority.hostPort
    else (t.url q.incoming.head.uri).path ++ Url.marked '?' (t.url q.incoming.head.uri).query
  values_eq : ∀ name, Headers.values name x.headers =
    Headers.values name (t.outbound authorization q.incoming.head).headers ++
      (if name = .accept ∧ Headers.values .accept q.incoming.head.headers.withoutHopByHop = [] then
        [Outbound.anything] else []) ++
      if name = .transferEncoding ∧ Outbound.goesInChunks q.incoming.head.method
        q.incoming.head.headers.withoutHopByHop q.body = true then [Http.chunkedValue] else []
  body_eq : x.body =
    if q.body.absent then some []
    else match Http.givenLength? q.incoming.head.headers.withoutHopByHop with
      | some n => if n ≤ q.body.bytes.length then some (q.body.bytes.take n) else none
      | none =>
        if Outbound.rarelyHasBody q.incoming.head.method then some []
        else if q.body.complete then some q.body.bytes else none

/-- The names that the gateway does not set itself have the values that cross. -/
theorem Target.values_outbound_of_ne (t : Target) (authorization : HeaderValue) (r : RequestHead)
    (name : HeaderName) (hname : name ∉ forced) :
    Headers.values name (t.outbound authorization r).headers =
      Headers.values name r.headers.withoutHopByHop := by
  simp only [forced, List.mem_cons, List.not_mem_nil, or_false, not_or] at hname
  rw [Headers.values_withoutHopByHop]
  refine (t.values_headers authorization r.headers name).trans ?_
  rw [if_neg hname.2.2, if_neg hname.2.1, if_neg hname.1]

theorem Target.isMadeOf_sent (t : Target) (authorization : HeaderValue) (q : Asked) :
    ((t.outbound authorization q.incoming.head).sent q.body).IsMadeOf t authorization q := by
  have haccept := t.values_outbound_of_ne authorization q.incoming.head .accept (by decide)
  have hlength : Headers.values .contentLength
      (Outbound.accepting (t.outbound authorization q.incoming.head).headers) =
        Headers.values .contentLength q.incoming.head.headers.withoutHopByHop := by
    have hother : HeaderName.contentLength ≠ .accept := by decide
    rw [Outbound.values_accepting, if_neg fun h => hother h.1, List.append_nil]
    exact t.values_outbound_of_ne authorization q.incoming.head .contentLength (by decide)
  have hgiven := Http.givenLength?_congr hlength
  rw [Outbound.sent_eq]
  refine ⟨rfl, rfl, fun name => ?_, ?_⟩
  · dsimp only
    rw [Outbound.framed_fst, ← haccept, ← Outbound.values_accepting, Outbound.goesInChunks, hgiven,
      ← Outbound.goesInChunks]
    split
    · rename_i hgoes
      rw [Headers.values_append]
      refine congrArg _ (if_congr ?_ rfl rfl)
      exact ⟨fun hname => ⟨hname.symm, hgoes⟩, fun h => h.1.symm⟩
    · rename_i hgoes
      rw [if_neg fun h => hgoes h.2, List.append_nil]
  · dsimp only
    rw [Outbound.framed_snd, hgiven]
    rfl

end CredentialGateway
