import CredentialGateway.Proofs.CredentialReport
import CredentialGateway.Proofs.GivenLength
import CredentialGateway.Proofs.ServerRuns

/-!
# A run with another credential

To reissue the credential of a run is to put another value wherever `Authorization` stands: in the
requests that are about to go out, and in those that have reached the service.  No part of the
gateway looks at that value.  So a step of the run that was reissued is the step, reissued, as long
as both credentials fit into a header or neither does, and a whole run differs in nothing else.

    the outbound request for v, reissued with w, is that for w       (Target.reissue_outbound)
    (s.reissue b).step? x = (s.step? x).map (reissue b)              (Server.step?_reissue)
    two runs differ in the value of Authorization only               (Credential.indistinguishable)
-/

namespace CredentialGateway

/-! ## Requests -/

namespace Headers

/-- The headers with another value for `Authorization`. -/
def reissue (v : HeaderValue) (h : Headers) : Headers :=
  h.map fun field => if field.1 = .authorization then (field.1, v) else field

theorem contains_reissue (name : HeaderName) (v : HeaderValue) (h : Headers) :
    (reissue v h).contains name = h.contains name := by
  rw [contains, contains, reissue, List.any_map]
  congr 1
  funext field
  by_cases hf : field.1 = .authorization <;> simp [hf]

section Fields

variable {name : HeaderName} (hname : name ≠ .authorization) (v : HeaderValue) (h : Headers)
include hname

/-- The values of all other names stay. -/
theorem values_reissue : values name (reissue v h) = values name h := by
  unfold values reissue
  induction h with
  | nil => rfl
  | cons field h ih =>
    rw [List.map_cons, List.filter_cons, List.filter_cons]
    by_cases hf : field.1 = .authorization
    · have hne : field.1 ≠ name := fun hn => hname (hn.symm.trans hf)
      simpa [hf, hne, hname.symm] using ih
    · rw [if_neg hf]
      by_cases hn : field.1 = name
      · simpa [hn] using ih
      · simpa [hn] using ih

theorem reissue_append (w : HeaderValue) :
    reissue v (h.append name w) = (reissue v h).append name w := by
  simp [reissue, append, hname]

end Fields

/-- What was erased is not reissued, and what was put in its place is. -/
theorem reissue_insert (v w : HeaderValue) (h : Headers) :
    reissue w (h.insert .authorization v) = h.insert .authorization w := by
  have herased : reissue w (h.erase .authorization) = h.erase .authorization := by
    refine (List.map_congr_left fun field hf => ?_).trans (List.map_id _)
    have hne := (List.mem_filter.1 hf).2
    exact if_neg (by simpa using hne)
  have happend : reissue w (h.erase .authorization ++ [(.authorization, v)]) =
      reissue w (h.erase .authorization) ++ [(.authorization, w)] := by
    simp [reissue]
  rw [insert, happend, herased]
  rfl

end Headers

/-- The request with another value for `Authorization`. -/
def Sent.reissue (v : HeaderValue) (x : Sent) : Sent := { x with headers := x.headers.reissue v }

namespace Outbound

/-- The request with another value for `Authorization`. -/
def reissue (v : HeaderValue) (o : Outbound) : Outbound :=
  { o with headers := o.headers.reissue v }

theorem framed_reissue (v : HeaderValue) (method : Text) (h : Headers) (body : BodyStream) :
    framed method (h.reissue v) body =
      ((framed method h body).1.reissue v, (framed method h body).2) := by
  have hlength : Http.givenLength? (h.reissue v) = Http.givenLength? h :=
    Http.givenLength?_congr (Headers.values_reissue (by decide) v h)
  unfold framed
  rw [hlength]
  split
  · rfl
  · split
    · rfl
    · split
      · rfl
      · rw [Headers.reissue_append (by decide)]

/-- What the service reads differs in the value only. -/
theorem sent_reissue (v : HeaderValue) (o : Outbound) (body : BodyStream) :
    (o.reissue v).sent body = (o.sent body).reissue v := by
  have hmethod : (o.reissue v).method = o.method := rfl
  have hheaders : (o.reissue v).headers = o.headers.reissue v := rfl
  have haccept : (if (o.reissue v).headers.contains .accept then (o.reissue v).headers
      else (o.reissue v).headers.append .accept anything) =
      Headers.reissue v (if o.headers.contains .accept then o.headers
        else o.headers.append .accept anything) := by
    rw [hheaders, Headers.contains_reissue]
    split
    · rfl
    · rw [Headers.reissue_append (by decide)]
  unfold sent
  simp only [haccept, hmethod, framed_reissue]
  rfl

end Outbound

/-- A request that is forwarded with one value is that with another, reissued. -/
theorem Target.reissue_outbound (t : Target) (v w : HeaderValue) (r : RequestHead) :
    (t.outbound v r).reissue w = t.outbound w r := by
  rw [outbound, Outbound.reissue, headers, Headers.reissue_insert]
  rfl

/-! ## Calls -/

namespace Call

/-- The call with another value for `Authorization` in what is not over. -/
def reissue (v : HeaderValue) : Call → Call
  | .admitted q o => .admitted q (o.reissue v)
  | .waiting q o => .waiting q (o.reissue v)
  | c => c

def Progress.reissue (v : HeaderValue) (p : Progress) : Progress :=
  { call := p.call.reissue v, sent := p.sent.map (Sent.reissue v), events := p.events }

/-- What a caller has got is not touched. -/
theorem bind_response?_reissue (v : HeaderValue) (c : Option Call) :
    (c.map (reissue v)).bind response? = c.bind response? := by
  cases c with
  | none => rfl
  | some c => cases c <;> rfl

theorem isOver_reissue (v : HeaderValue) (c : Call) : (c.reissue v).isOver = c.isOver := by
  cases c <;> rfl

theorem outgoing?_reissue (v : HeaderValue) (c : Call) :
    (c.reissue v).outgoing? = c.outgoing?.map (Sent.reissue v) := by
  cases c
  case admitted q o =>
    have hsendable : (o.reissue v).isSendable = o.isSendable := rfl
    simp only [reissue, outgoing?, hsendable, Outbound.sent_reissue]
    split <;> rfl
  all_goals rfl

theorem reading_reissue (v : HeaderValue) (bytes : Bytes) :
    (reading bytes).reissue v = reading bytes := by
  rcases reading_cases bytes with h | ⟨r, h⟩ | ⟨q, h⟩ <;> rw [h] <;> rfl

/-- The verdict on a request is the same for all credentials. -/
theorem judging_reissue {a b : Credential} (h : a.header.2 = b.header.2) (g : Gateway)
    (q : Asked) : judging g b q = (judging g a q).reissue b.header.1 := by
  unfold judging Gateway.judge
  cases g.pattern.serves q.incoming.head.uri.path with
  | false => rfl
  | true =>
    cases Path.hasDotSegment q.incoming.head.uri.path with
    | true => rfl
    | false =>
      simp only [Bool.not_true, Bool.false_eq_true, if_false, Progress.reissue, reissue,
        Target.reissue_outbound, h]
      rfl

theorem sending_reissue (v : HeaderValue) (q : Asked) (o : Outbound) (arrives : Bool) :
    sending q (o.reissue v) arrives = (sending q o arrives).reissue v := by
  have hsendable : (o.reissue v).isSendable = o.isSendable := rfl
  unfold sending
  rw [hsendable, Outbound.sent_reissue]
  split
  · rfl
  · split <;> rfl

/-- A step of a call that was reissued is the step, reissued. -/
theorem step?_reissue {a b : Credential} (h : a.header.2 = b.header.2) (g : Gateway)
    (closing : Bool) (c : Call) (x : Step) : (c.reissue b.header.1).step? g b closing x =
      (c.step? g a closing x).map (Progress.reissue b.header.1) := by
  cases c
  case connected bytes =>
    cases x with
    | read =>
      show some _ = some _
      rw [Progress.reissue, reading_reissue]
      rfl
    | judge | send | reply | deliver | close => rfl
  case read q =>
    cases x with
    | judge => exact congrArg some (judging_reissue h g q)
    | read | send | reply | deliver | close => rfl
  case admitted q o =>
    cases x with
    | send arrives => exact congrArg some (sending_reissue b.header.1 q o arrives)
    | read | judge | reply | deliver | close => rfl
  case waiting q o =>
    cases x with
    | reply r =>
      simp only [reissue, step?]
      split <;> rfl
    | read | judge | send | deliver | close => rfl
  case answered q r =>
    cases x with
    | deliver =>
      simp only [reissue, step?]
      cases delivered closing q r <;> rfl
    | close =>
      simp only [reissue, step?]
      split <;> rfl
    | read | judge | send | reply => rfl
  all_goals cases x <;> rfl

end Call

/-! ## Servers -/

namespace Server

/-- The server with another credential, also in what has gone out already. -/
def reissue (b : Credential) (s : Server) : Server :=
  { s with
    credential := b
    calls := s.calls.map fun (id, c) => (id, c.reissue b.header.1)
    reached := s.reached.map fun (id, x) => (id, x.reissue b.header.1) }

theorem reissue_start (g : Gateway) (a b : Credential) (socket : Text) (harbour : Harbour) :
    (start g a socket harbour).reissue b = start g b socket harbour := rfl

theorem lookup_map {α : Type} (f : α → α) (entries : List (Nat × α)) (id : Nat) :
    (entries.map fun (i, x) => (i, f x)).lookup id = (entries.lookup id).map f := by
  induction entries with
  | nil => rfl
  | cons x entries ih =>
    rw [List.map_cons, List.lookup_cons, List.lookup_cons]
    cases id == x.1 with
    | true => rfl
    | false => exact ih

theorem call?_reissue (b : Credential) (s : Server) (id : Nat) :
    (s.reissue b).call? id = (s.call? id).map (Call.reissue b.header.1) := lookup_map _ _ _

theorem put_reissue (b : Credential) (s : Server) (id : Nat) (c : Call) :
    (s.reissue b).put id (c.reissue b.header.1) = (s.put id c).reissue b := by
  have hcalls : ∀ calls : List (Nat × Call),
      (calls.map fun (i, old) => (i, old.reissue b.header.1)).map
          (fun (i, old) => if i = id then (i, c.reissue b.header.1) else (i, old)) =
        (calls.map fun (i, old) => if i = id then (i, c) else (i, old)).map
          fun (i, old) => (i, old.reissue b.header.1) := by
    intro calls
    rw [List.map_map, List.map_map]
    refine List.map_congr_left fun x _ => ?_
    by_cases hx : x.1 = id <;> simp [hx]
  unfold put
  simp only [reissue, hcalls]

/-- A step keeps the credential. -/
theorem Becomes.credential_eq {s s' : Server} {x : Step} (h : Becomes s x s') :
    s'.credential = s.credential := by
  cases h <;> rfl

section Runs

variable {b : Credential}

/-- A step of a server that was reissued is the step, reissued. -/
theorem step?_reissue {s : Server} (h : s.credential.header.2 = b.header.2) (x : Step) :
    (s.reissue b).step? x = (s.step? x).map (reissue b) := by
  cases x with
  | trigger => rfl
  | abandon => rfl
  | look =>
    have hsignal : (s.reissue b).signal = s.signal := rfl
    simp only [step?, hsignal]
    split <;> rfl
  | connect id bytes =>
    have hphase : (s.reissue b).phase = s.phase := rfl
    simp only [step?, hphase, call?_reissue, Option.isNone_map]
    split
    · simp [reissue, Call.reissue]
    · rfl
  | call id x =>
    simp only [step?, call?_reissue, Option.bind_eq_bind]
    cases s.call? id with
    | none => rfl
    | some c =>
      have hphase : (s.reissue b).phase = s.phase := rfl
      have hgateway : (s.reissue b).gateway = s.gateway := rfl
      have hcredential : (s.reissue b).credential = b := rfl
      simp only [Option.map_some, Option.bind_some, hphase, hgateway, hcredential,
        Call.step?_reissue h]
      cases Call.step? s.gateway s.credential (s.phase ≠ .serving) c x with
      | none => rfl
      | some p =>
        simp only [Option.map_some, Option.bind_some, Call.Progress.reissue, put_reissue]
        cases p.sent <;> simp [reissue]
  | finish =>
    have hphase : (s.reissue b).phase = s.phase := rfl
    have hover : (s.reissue b).calls.all (·.2.isOver) = s.calls.all (·.2.isOver) := by
      simp [reissue, Function.comp_def, Call.isOver_reissue]
    simp only [step?, hphase, hover]
    split <;> rfl

/-- A run of a server that was reissued is the run, reissued. -/
theorem run?_reissue {s : Server} (h : s.credential.header.2 = b.header.2) (steps : List Step) :
    (s.reissue b).run? steps = (s.run? steps).map (reissue b) := by
  induction steps generalizing s with
  | nil => rfl
  | cons x steps ih =>
    simp only [run?, List.foldlM_cons, Option.bind_eq_bind, step?_reissue h]
    cases hx : s.step? x with
    | none => rfl
    | some next =>
      have hnext := (step?_eq_some_iff.1 hx).credential_eq
      exact ih (hnext ▸ h)

end Runs

/-! ## One call after the other -/

theorem credential_attempt (s : Server) (x : Step) :
    (s.attempt x).credential = s.credential := by
  unfold attempt
  cases hx : s.step? x with
  | none => rfl
  | some next => exact (step?_eq_some_iff.1 hx).credential_eq

theorem credential_exchange (s : Server) (service : Service) (bytes : Bytes) :
    (s.exchange service bytes).2.credential = s.credential := by
  simp only [exchange, credential_attempt]

theorem attempt_reissue {b : Credential} {s : Server} (h : s.credential.header.2 = b.header.2)
    (x : Step) : (s.reissue b).attempt x = (s.attempt x).reissue b := by
  unfold attempt
  rw [step?_reissue h]
  cases s.step? x <;> rfl

end Server

/-- The replies do not depend on the value of `Authorization`. -/
def Service.IsBlind (service : Service) : Prop :=
  ∀ (n : Nat) (x : Sent) (v : HeaderValue), service n (x.reissue v) = service n x

theorem Service.IsBlind.reply_reissue {service : Service} (hs : service.IsBlind) (n : Nat)
    (v : HeaderValue) (c : Option Call) :
    ((c.map (Call.reissue v)).bind Call.outgoing?).elim .unreachable (service n) =
      (c.bind Call.outgoing?).elim .unreachable (service n) := by
  cases c with
  | none => rfl
  | some c =>
    rw [Option.map_some, Option.bind_some, Option.bind_some, Call.outgoing?_reissue]
    cases c.outgoing? with
    | none => rfl
    | some x => exact hs n x v

/-- The outcome with another value for `Authorization` in what reached the service. -/
def Outbound.Forwarded.reissue (v : HeaderValue) (f : Forwarded) : Forwarded :=
  { f with sent := f.sent.map (Sent.reissue v) }

namespace Server

section Exchanges

variable {b : Credential} {service : Service} (hs : service.IsBlind)
include hs

/-- What a caller has from a server that was reissued is what it has from the server. -/
theorem exchange_reissue {s : Server} (h : s.credential.header.2 = b.header.2) (bytes : Bytes) :
    (s.reissue b).exchange service bytes =
      ((s.exchange service bytes).1.map (·.reissue b.header.1),
        (s.exchange service bytes).2.reissue b) := by
  have hcalls : (s.reissue b).calls.length = s.calls.length := List.length_map _
  have hreached : (s.reissue b).reached.length = s.reached.length := List.length_map _
  have hlog (s : Server) : (s.reissue b).log = s.log := rfl
  have hlookup (s : Server) (id : Nat) : (s.reissue b).reached.lookup id =
      (s.reached.lookup id).map (Sent.reissue b.header.1) := lookup_map _ _ _
  unfold exchange
  simp only [hcalls, hreached, attempt_reissue, credential_attempt, h, call?_reissue,
    hs.reply_reissue, Call.bind_response?_reissue, hlookup, hlog, Option.map_map]
  rfl

theorem exchanges_reissue {s : Server} (h : s.credential.header.2 = b.header.2)
    (requests : List Bytes) : (s.reissue b).exchanges service requests =
      ((s.exchanges service requests).1.map (·.map (·.reissue b.header.1)),
        (s.exchanges service requests).2.reissue b) := by
  induction requests generalizing s with
  | nil => rfl
  | cons bytes requests ih =>
    have hnext : (s.exchange service bytes).2.credential.header.2 = b.header.2 := by
      rw [credential_exchange, h]
    simp only [exchanges, exchange_reissue hs h, ih hnext, List.map_cons]

end Exchanges

/-! ## Two runs -/

/-- The servers have reported the same, their callers have the same responses, and the requests that
have reached the service are the same but for the value of `Authorization`, which is `v` in those of
the second. -/
structure SameBut (v : HeaderValue) (s s' : Server) : Prop where
  log : s'.log = s.log
  phase : s'.phase = s.phase
  harbour : s'.harbour = s.harbour
  response : ∀ id, (s'.call? id).bind Call.response? = (s.call? id).bind Call.response?
  reached : s'.reached = s.reached.map fun (id, x) => (id, x.reissue v)

theorem sameBut_reissue (b : Credential) (s : Server) :
    SameBut b.header.1 s (s.reissue b) := by
  refine ⟨rfl, rfl, rfl, fun id => ?_, rfl⟩
  rw [call?_reissue, Call.bind_response?_reissue]

end Server

namespace Credential

/-- Nothing but the value of `Authorization` tells a gateway with one credential from a gateway with
the other: not what it reports at its start, not what comes of any script of steps and replies, and
not what callers have from it one after the other. -/
structure Indistinguishable (a b : Credential) : Prop where
  configured : ∀ c, Gateway.configured c b = Gateway.configured c a
  run : ∀ (g : Gateway) (socket : Text) (harbour : Harbour) (steps : List Server.Step),
    Option.Rel (Server.SameBut b.header.1) ((Server.start g a socket harbour).run? steps)
      ((Server.start g b socket harbour).run? steps)
  exchanges : ∀ (g : Gateway) (socket : Text) (harbour : Harbour) (service : Service),
    service.IsBlind → ∀ requests,
      ((Server.start g b socket harbour).exchanges service requests).1 =
        ((Server.start g a socket harbour).exchanges service requests).1.map
          (·.map (·.reissue b.header.1))

/-- Credentials that are both empty or both not, and that both fit into a header or both do not,
cannot be told from each other. -/
theorem indistinguishable {a b : Credential} (hempty : a.isEmpty = b.isEmpty)
    (hfits : a.fits = b.fits) : a.Indistinguishable b := by
  have hreport : a.header.2 = b.header.2 := by rw [reported_header, reported_header, hfits]
  constructor
  · intro c
    rw [Gateway.configured, Gateway.configured, hempty]
  · intro g socket harbour steps
    have hstart : (Server.start g a socket harbour).credential.header.2 = b.header.2 := hreport
    rw [← Server.reissue_start g a b, Server.run?_reissue hstart]
    cases (Server.start g a socket harbour).run? steps with
    | none => exact .none
    | some s => exact .some (Server.sameBut_reissue b s)
  · intro g socket harbour service hs requests
    have hstart : (Server.start g a socket harbour).credential.header.2 = b.header.2 := hreport
    rw [← Server.reissue_start g a b, Server.exchanges_reissue hs hstart]

/-- Two secrets of different lengths. -/
theorem indistinguishable_keys :
    (⟨"sk-1"⟩ : Credential).isEmpty = (⟨"sk-live-22"⟩ : Credential).isEmpty ∧
      (⟨"sk-1"⟩ : Credential).fits = (⟨"sk-live-22"⟩ : Credential).fits ∧
      (⟨"sk-1"⟩ : Credential).header.1 ≠ (⟨"sk-live-22"⟩ : Credential).header.1 ∧
      (⟨"sk-1"⟩ : Credential).Indistinguishable ⟨"sk-live-22"⟩ := by
  have hempty : (⟨"sk-1"⟩ : Credential).isEmpty = (⟨"sk-live-22"⟩ : Credential).isEmpty := rfl
  have hfits : (⟨"sk-1"⟩ : Credential).fits = (⟨"sk-live-22"⟩ : Credential).fits := by decide
  exact ⟨hempty, hfits, by decide, indistinguishable hempty hfits⟩

end Credential

end CredentialGateway
