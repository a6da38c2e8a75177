import CredentialGateway.Proofs.CallOutcome
import CredentialGateway.Proofs.Chunks
import CredentialGateway.Proofs.SentRequest

/-!
# The body of a forwarded request

The body of a request is read with the framing its caller gave it, and framed anew for the service.
The transfer coding never crosses, and a length crosses unless `Connection` nominates it.  What
crosses decides: a length cuts the body there, and without one the methods that rarely have a body
lose theirs.

    a body is read as it was written                                  (Call.body_of_frames)
    a whole body arrives as it was ↔ what crosses fits it           (Call.body_sent_iff)
    the same in whatever a server goes through                      (Server.body_reached_iff)
-/

namespace CredentialGateway

namespace Asked

/-- What crosses fits the body: the length that goes with it, if one does, is its own, and without
one the method is not one that loses its body. -/
def KeepsBody (q : Asked) : Prop :=
  match Http.givenLength? q.incoming.head.headers.withoutHopByHop with
  | some n => n = q.body.bytes.length
  | none => q.body.bytes = [] ∨ Outbound.rarelyHasBody q.incoming.head.method = false

instance (q : Asked) : Decidable q.KeepsBody :=
  match h : Http.givenLength? q.incoming.head.headers.withoutHopByHop with
  | some n => decidable_of_iff (n = q.body.bytes.length) (by rw [KeepsBody, h])
  | none => decidable_of_iff (_ ∨ _) (by rw [KeepsBody, h])

end Asked

namespace Call

section Reading

variable {bytes : Bytes} {q : Asked}

/-- What a request that is read has been read from. -/
theorem request_of_reading (hread : reading bytes = .read q) : ∃ rest,
    Http.request bytes = .ok (q.incoming, rest) ∧
      q.body = ⟨(Http.readBody q.incoming.framing rest).1,
        (Http.readBody q.incoming.framing rest).2, q.incoming.framing = .length 0⟩ := by
  unfold reading at hread
  split at hread
  · cases hread
  · cases hread
  · rename_i incoming rest hrequest
    cases hread
    exact ⟨rest, hrequest, rfl⟩

/-- The length that frames a body is the one that its caller gave, and it is given once at most. -/
theorem hasLength_of_reading (hread : reading bytes = .read q) : ∃ l,
    q.incoming.head.headers.HasLength l ∧
      ∀ n, q.incoming.framing = .length n → n = l.getD 0 := by
  obtain ⟨rest, hrequest, -⟩ := request_of_reading hread
  obtain ⟨newer, fields, keepAlive, hframe⟩ := Http.frame_of_request hrequest
  exact Http.hasLength_of_frame hframe

/-- A body of a given length that is whole has that length. -/
theorem length_body_of_reading (hread : reading bytes = .read q)
    (hwhole : q.body.complete = true) {n : Nat} (hlength : q.incoming.framing = .length n) :
    q.body.bytes.length = n := by
  obtain ⟨rest, -, hbody⟩ := request_of_reading hread
  rw [hlength] at hbody
  rw [hbody] at hwhole ⊢
  have hn : n ≤ rest.length := by simpa [Http.readBody] using hwhole
  simpa [Http.readBody] using hn

/-- A body that a length frames is kept, unless its length is nominated and the method loses its
body without. -/
theorem keepsBody_iff_of_length (hread : reading bytes = .read q)
    (hwhole : q.body.complete = true) {n : Nat} (hlength : q.incoming.framing = .length n) :
    q.KeepsBody ↔ q.body.bytes = [] ∨ Outbound.rarelyHasBody q.incoming.head.method = false ∨
      .contentLength ∉ Headers.nominated q.incoming.head.headers := by
  obtain ⟨l, hl, hframing⟩ := hasLength_of_reading hread
  have hn := length_body_of_reading hread hwhole hlength
  rw [hframing n hlength] at hn
  unfold Asked.KeepsBody
  rw [hl.withoutHopByHop.givenLength?]
  by_cases hnominated : .contentLength ∈ Headers.nominated q.incoming.head.headers
  · simp [hnominated]
  · cases l with
    | none => simpa [hnominated] using .inl (List.length_eq_zero_iff.1 hn)
    | some m => simpa [hnominated] using hn.symm

/-- What reaches the service of a whole body is all of it if, and only if, what crosses fits it. -/
theorem body_sent_iff (hread : reading bytes = .read q) (hwhole : q.body.complete = true)
    (t : Target) (authorization : HeaderValue) :
    ((t.outbound authorization q.incoming.head).sent q.body).body = some q.body.bytes ↔
      q.KeepsBody := by
  rw [(t.isMadeOf_sent authorization q).body_eq]
  split
  · -- a length of zero, or none
    rename_i habsent
    obtain ⟨rest, -, hbody⟩ := request_of_reading hread
    have hzero : q.incoming.framing = .length 0 := by
      rw [hbody] at habsent
      simpa using habsent
    have hnil : q.body.bytes = [] :=
      List.length_eq_zero_iff.1 (length_body_of_reading hread hwhole hzero)
    exact iff_of_true (by rw [hnil]) ((keepsBody_iff_of_length hread hwhole hzero).2 (.inl hnil))
  · unfold Asked.KeepsBody
    cases Http.givenLength? q.incoming.head.headers.withoutHopByHop with
    | some n =>
      dsimp only
      split
      · rename_i hn
        rw [Option.some.injEq, List.take_eq_self_iff]
        omega
      · rename_i hn
        exact iff_of_false (by simp) (by omega)
    | none =>
      dsimp only
      split
      · rename_i hrarely
        simp [hrarely, eq_comm]
      · rename_i hrarely
        rw [Bool.not_eq_true] at hrarely
        simp [hrarely]

/-- A body is read as it was written, in whichever way its framing allows. -/
theorem body_of_frames {text body rest : Bytes} (hread : reading bytes = .read q)
    (hrequest : Http.request bytes = .ok (q.incoming, text ++ rest))
    (hframes : Http.Frames q.incoming.framing text body) :
    q.body.bytes = body ∧ q.body.complete = true := by
  obtain ⟨rest', hrest, hbody⟩ := request_of_reading hread
  cases hrequest.symm.trans hrest
  rw [hbody, Http.readBody_of_frames hframes]
  exact ⟨rfl, rfl⟩

end Reading

end Call

/-! ## Whatever a server goes through -/

namespace Server

/-- The body of a request that reaches the service is the one that its caller sent if, and only if,
what crosses fits it.  For a body that a length frames, what does not fit is a nominated length.  What
the caller sent is what it has written behind the head, in whichever spelling. -/
theorem body_reached_iff {g : Gateway} {credential : Credential} {socket : Text}
    {harbour : Harbour} {steps : List Step} {s : Server}
    (h : (start g credential socket harbour).run? steps = some s) {id : Nat} {bytes : Bytes}
    {q : Asked} {x : Sent} (hconnect : .connect id bytes ∈ steps)
    (hread : Call.reading bytes = .read q) (hwhole : q.body.complete = true)
    (hx : x ∈ s.reachedFor id) :
    (x.body = some q.body.bytes ↔ q.KeepsBody) ∧
    (∀ n, q.incoming.framing = .length n → (q.KeepsBody ↔
      q.body.bytes = [] ∨ Outbound.rarelyHasBody q.incoming.head.method = false ∨
        ¬ ∃ v ∈ Headers.values .connection q.incoming.head.headers,
          v.Nominates .contentLength)) ∧
    ∀ text body rest, Http.request bytes = .ok (q.incoming, text ++ rest) →
      Http.Frames q.incoming.framing text body → q.body.bytes = body := by
  refine ⟨?_, fun n hlength => ?_, fun text body rest hrequest hframes =>
    (Call.body_of_frames hread hrequest hframes).1⟩
  · obtain ⟨c, events, -, hcourse⟩ := (tracks_of_run? h).course_of_connect hconnect
    rw [hcourse.sent_eq] at hx
    unfold Call.arrivals at hx
    rw [hread] at hx
    simp only at hx
    split at hx
    · rename_i o hjudge
      obtain ⟨-, -, rfl⟩ := Gateway.judge_eq_forward_iff.1 hjudge
      split at hx
      · obtain rfl := List.mem_singleton.1 hx
        exact Call.body_sent_iff hread hwhole g.target credential.header.1
      · cases hx
    · cases hx
    · cases hx
  · rw [← Headers.mem_nominated_iff]
    exact Call.keepsBody_iff_of_length hread hwhole hlength

end Server

/-! ## A body in one chunk -/

/-- A request with a body of three bytes in one chunk. -/
def Http.Outgoing.inChunk (method : String) : Http.Outgoing where
  method := Text.utf8 method.toList
  uri := Text.utf8 "/openai/x"
  headers := []
  payload := .chunks [Text.utf8 "abc"]

/-- The same as it is read. -/
def Asked.inChunk (method : String) : Asked where
  incoming := {
    head := {
      method := method.toList
      uri := ⟨none, none, "/openai/x", none⟩
      headers := [(.host, ⟨Text.utf8 "localhost", false, by decide⟩),
        (.transferEncoding, Http.chunkedValue)] }
    newer := true
    keepAlive := true
    framing := .chunked }
  body := ⟨Text.utf8 "abc", true, false⟩

theorem Call.reading_inChunk : ∀ method ∈ ["GET", "POST"],
    reading (Http.Outgoing.inChunk method).write = .read (.inChunk method) := by
  decide +kernel

namespace Server

/-- A server comes to send one request. -/
def sendingInChunk (method : String) : Option Server :=
  let bytes := (Http.Outgoing.inChunk method).write
  (start .loopback ⟨"key"⟩ "gateway.sock" { tree := {}, home := [] }).run?
    [.connect 0 bytes, .call 0 .read, .call 0 .judge, .call 0 (.send true)]

theorem bodies_sendingInChunk : ∀ x ∈ [("GET", ""), ("POST", "abc")],
    (sendingInChunk x.1).map (fun s => (s.reachedFor 0).map (·.body)) =
      some [some (Text.utf8 x.2.toList)] := by
  decide +kernel

/-- The one request that has reached the service, with its body. -/
theorem exists_sendingInChunk (y : String × String) (h : y ∈ [("GET", ""), ("POST", "abc")]) :
    ∃ s x, sendingInChunk y.1 = some s ∧ s.reachedFor 0 = [x] ∧
      x.body = some (Text.utf8 y.2.toList) := by
  obtain ⟨s, hs, hreached⟩ := Option.map_eq_some_iff.1 (bodies_sendingInChunk y h)
  obtain ⟨x, hx, hbody⟩ := List.map_eq_singleton_iff.1 hreached
  exact ⟨s, x, hs, hx, hbody⟩

/-- With POST the body arrives. -/
theorem body_reached_iff_post : (Asked.inChunk "POST").KeepsBody ∧ ∃ s x,
    sendingInChunk "POST" = some s ∧ x ∈ s.reachedFor 0 ∧
      x.body = some (Asked.inChunk "POST").body.bytes := by
  obtain ⟨s, x, hs, hx, -⟩ := exists_sendingInChunk ("POST", "abc") (by simp)
  have hkeeps : (Asked.inChunk "POST").KeepsBody := by decide
  have hmem : x ∈ s.reachedFor 0 := hx ▸ List.mem_singleton_self x
  exact ⟨hkeeps, s, x, hs, hmem, (body_reached_iff hs (by simp)
    (Call.reading_inChunk "POST" (by simp)) rfl hmem).1.2 hkeeps⟩

/-- With GET it does not. -/
theorem body_reached_ne_get :
    Call.reading (Http.Outgoing.inChunk "GET").write = .read (.inChunk "GET") ∧
      (Asked.inChunk "GET").body.complete = true ∧ ∃ s x, sendingInChunk "GET" = some s ∧
        x ∈ s.reachedFor 0 ∧ x.body ≠ some (Asked.inChunk "GET").body.bytes := by
  obtain ⟨s, x, hs, hx, hbody⟩ := exists_sendingInChunk ("GET", "") (by simp)
  refine ⟨Call.reading_inChunk "GET" (by simp), rfl, s, x, hs, hx ▸ List.mem_singleton_self x, ?_⟩
  rw [hbody]
  decide

end Server

end CredentialGateway
