import CredentialGateway.Proofs.Relay
import CredentialGateway.Proofs.SocketEntry
import CredentialGateway.Proofs.Watch

/-!
# The end of a server

Once a server has stopped listening nobody connects.  It returns when every call is over, and a call
goes on as if nothing had been said: what its caller gets differs in the word about the connection
only.  The socket stays in the file tree where it was bound.

    the calls come to the same without the stop                       (Server.alike_of_run?)
    the server can return once it has been told to stop               (Server.exists_returned)
    it drains, whatever was going on                             (Gateway.drainsGracefully)
-/

namespace CredentialGateway

/-! ## Without the stop -/

namespace Call

/-- The call without the word about the connection in its response. -/
def withoutConnection : Call → Call
  | .over r => .over (r.map Response.withoutConnection)
  | c => c

theorem isOver_withoutConnection (c : Call) : c.withoutConnection.isOver = c.isOver := by
  cases c <;> rfl

/-- As long as a response is not delivered there is no such word. -/
theorem withoutConnection_of_not_isOver {c : Call} (h : c.isOver = false) :
    c.withoutConnection = c := by
  match c with
  | .over r => cases h
  | .connected _ | .read _ | .admitted .. | .waiting .. | .answered .. => rfl

theorem eq_of_withoutConnection_eq {c d : Call} (h : d.withoutConnection = c.withoutConnection)
    (hc : c.isOver = false) : d = c := by
  have hd : d.isOver = false := by
    rw [← isOver_withoutConnection, h, isOver_withoutConnection, hc]
  rwa [withoutConnection_of_not_isOver hd, withoutConnection_of_not_isOver hc] at h

/-- A step comes to the same whether connections stay open or not, that word apart. -/
theorem Leads.closing {g : Gateway} {credential : Credential} {closing : Bool} {c : Call} {x : Step}
    {p : Progress} (h : Leads g credential closing c x p) (closing' : Bool) :
    ∃ p', Leads g credential closing' c x p' ∧ p'.sent = p.sent ∧
      p'.call.withoutConnection = p.call.withoutConnection := by
  have hsame (q : Option Asked) (r : Response) :
      (delivered closing' q r).map Response.withoutConnection =
        (delivered closing q r).map Response.withoutConnection :=
    (withoutConnection_delivered closing' q r).trans (withoutConnection_delivered closing q r).symm
  cases h with
  | read bytes => exact ⟨_, .read bytes, rfl, rfl⟩
  | judge q => exact ⟨_, .judge q, rfl, rfl⟩
  | send q o arrives => exact ⟨_, .send q o arrives, rfl, rfl⟩
  | reply q o hr => exact ⟨_, .reply q o hr, rfl, rfl⟩
  | @deliver q r out hout =>
    have hq := hsame q r
    rw [hout, Option.map_some, Option.map_eq_some_iff] at hq
    obtain ⟨out', hout', hq⟩ := hq
    exact ⟨_, .deliver hout', rfl, congrArg (fun r => Call.over (some r)) hq⟩
  | @close q r hout =>
    have hq := hsame q r
    rw [hout, Option.map_none, Option.map_eq_none_iff] at hq
    exact ⟨_, .close hq, rfl, rfl⟩

end Call

namespace Server

/-- The step is one of a call. -/
def Step.isOfCall : Step → Bool
  | .connect .. | .call .. => true
  | .trigger | .abandon | .look | .finish => false

/-- The second server has come as far with its calls as the first, and serves. -/
structure Alike (s t : Server) : Prop where
  gateway_eq : t.gateway = s.gateway
  credential_eq : t.credential = s.credential
  serving : t.phase = .serving
  reached_eq : t.reached = s.reached
  call : ∀ id, (t.call? id).map Call.withoutConnection = (s.call? id).map Call.withoutConnection

section Alike

variable {s s' t : Server} {x : Step}

/-- What the server does as a whole is nothing to its calls. -/
theorem Alike.quiet (h : Alike s t) (hx : Becomes s x s') (hquiet : x.isOfCall = false) :
    Alike s' t := by
  cases hx with
  | trigger | abandon | look | finish => exact ⟨h.1, h.2, h.3, h.4, h.5⟩
  | connect | call => cases hquiet

/-- A step of a call is one for the server that goes on serving, too. -/
theorem Alike.step (h : Alike s t) (hx : Becomes s x s') (hcall : x.isOfCall = true) :
    ∃ t', Becomes t x t' ∧ Alike s' t' := by
  cases hx with
  | trigger | abandon | look | finish => cases hcall
  | @connect id bytes hserving hnew =>
    have hnone : t.call? id = none := by
      have := h.call id
      rw [hnew] at this
      exact Option.map_eq_none_iff.1 this
    refine ⟨_, .connect h.serving hnone, h.gateway_eq, h.credential_eq, h.serving, h.reached_eq,
      fun j => ?_⟩
    rw [call?_connect, call?_connect, Option.map_or, Option.map_or, h.call j]
  | @call id y c p hfind hstep =>
    have hover : c.isOver = false := by
      by_contra hover
      exact Call.not_leads_of_isOver (by simpa using hover) hstep
    obtain ⟨d, hd, hdc⟩ : ∃ d, t.call? id = some d ∧ d = c := by
      have hsame := h.call id
      rw [hfind, Option.map_some, Option.map_eq_some_iff] at hsame
      obtain ⟨d, hd, hsame⟩ := hsame
      exact ⟨d, hd, Call.eq_of_withoutConnection_eq hsame hover⟩
    rw [hdc] at hd
    obtain ⟨p', hp', hsent, hsame⟩ := hstep.closing (t.phase ≠ .serving)
    rw [← h.gateway_eq, ← h.credential_eq] at hp'
    refine ⟨_, .call hd hp', h.gateway_eq, h.credential_eq, h.serving, ?_, fun j => ?_⟩
    · simp only [hsent, h.reached_eq]
    · calc ((t.put id p'.call).call? j).map Call.withoutConnection
          = (if j = id then some p'.call else t.call? j).map Call.withoutConnection := by
            rw [call?_put_of_eq_some hd]
        _ = (if j = id then some p.call else s.call? j).map Call.withoutConnection := by
            split
            · simp [hsame]
            · exact h.call j
        _ = ((s.put id p.call).call? j).map Call.withoutConnection := by
            rw [call?_put_of_eq_some hfind]

/-- The steps of the calls can be taken without those of the server as a whole, and come to the
same. -/
theorem alike_of_run? {steps : List Step} (h : Alike s t) (hrun : s.run? steps = some s') :
    ∃ t', t.run? (steps.filter Step.isOfCall) = some t' ∧ Alike s' t' := by
  induction steps generalizing s t with
  | nil =>
    cases hrun
    exact ⟨t, rfl, h⟩
  | cons x rest ih =>
    obtain ⟨next, hx, hrest⟩ := Option.bind_eq_some_iff.1 hrun
    have hx := step?_eq_some_iff.1 hx
    cases hcall : x.isOfCall with
    | true =>
      obtain ⟨u, hu, hnext⟩ := h.step hx hcall
      obtain ⟨t', ht', hlast⟩ := ih hnext hrest
      rw [List.filter_cons_of_pos hcall]
      exact ⟨t', Option.bind_eq_some_iff.2 ⟨u, step?_eq_some_iff.2 hu, ht'⟩, hlast⟩
    | false =>
      rw [List.filter_cons_of_neg (by simp [hcall])]
      exact ih (h.quiet hx hcall) hrest

end Alike

/-! ## Nobody connects any more -/

end Server

/-- Whoever answers at a path holds a listener. -/
theorem Harbour.mem_listeners_of_connect {harbour : Harbour} {path holder : Text}
    (h : harbour.connect path = .ok holder) : ∃ e, (holder, e) ∈ harbour.listeners := by
  have hholder {e : Endpoint} (he : harbour.holder? e = .ok holder) :
      ∃ e, (holder, e) ∈ harbour.listeners := by
    unfold Harbour.holder? at he
    split at he
    · rename_i found e' hfound
      cases he
      exact ⟨e', List.mem_of_find?_eq_some hfound⟩
    · cases he
  obtain ⟨address, -, h⟩ := bind_eq_ok_iff.1 h
  cases address with
  | path p =>
    obtain ⟨node, -, h⟩ := bind_eq_ok_iff.1 h
    split at h
    · exact hholder h
    · exact absurd h throw_ne_ok
  | autobound => exact absurd h throw_ne_ok
  | _ => exact hholder h

namespace Server

/-- A server that has stopped does not serve again, and nobody has connected since. -/
theorem stopped_of_run? {s t : Server} {more : List Step} (hstopped : s.phase ≠ .serving)
    (h : s.run? more = some t) : t.phase ≠ .serving ∧ ∀ id bytes, .connect id bytes ∉ more := by
  refine run?_invariant
    (P := fun more t => t.phase ≠ .serving ∧ ∀ id bytes, Step.connect id bytes ∉ more)
    ⟨hstopped, by simp⟩ ?_ h
  intro done u x u' ⟨hphase, hnone⟩ hx
  cases hx with
  | trigger | abandon | call => exact ⟨hphase, by simpa using hnone⟩
  | look | finish => exact ⟨by simp [stopListening], by simpa using hnone⟩
  | connect hserving => exact absurd hserving hphase

/-! ## The server returns -/

/-- Calls can be brought to their ends one after the other. -/
theorem exists_all_over (s : Server) (ids : List Nat) : ∃ (steps : List Step) (t : Server),
    s.run? steps = some t ∧ t.phase = s.phase ∧ (∀ x ∈ steps, x.isOfCall = true) ∧
      (∀ id ∈ ids, (t.call? id).all Call.isOver = true) ∧
      ∀ id, (s.call? id).all Call.isOver = true → (t.call? id).all Call.isOver = true := by
  induction ids generalizing s with
  | nil => exact ⟨[], s, rfl, rfl, by simp, by simp, fun _ h => h⟩
  | cons i ids ih =>
    -- the first of them, and no other
    obtain ⟨first, u, hfirst, hphase, hcalls, hover, hothers⟩ :
        ∃ (first : List Step) (u : Server), s.run? first = some u ∧ u.phase = s.phase ∧
          (∀ x ∈ first, x.isOfCall = true) ∧ (u.call? i).all Call.isOver = true ∧
          ∀ j, j ≠ i → u.call? j = s.call? j := by
      cases hc : s.call? i with
      | none => exact ⟨[], s, rfl, rfl, by simp, by simp [hc], fun _ _ => rfl⟩
      | some c =>
        obtain ⟨steps, u, r, hrun, hover, hothers, hphase⟩ := exists_over hc
        refine ⟨_, u, hrun, hphase, fun x hx => ?_, by simp [hover, Call.isOver], hothers⟩
        obtain ⟨y, -, rfl⟩ := List.mem_map.1 hx
        rfl
    have hkeeps (j : Nat) (hj : (s.call? j).all Call.isOver = true) :
        (u.call? j).all Call.isOver = true := by
      by_cases hji : j = i
      · exact hji ▸ hover
      · rwa [hothers j hji]
    obtain ⟨rest, t, hrest, hphase', hcalls', hids, hkeeps'⟩ := ih u
    refine ⟨first ++ rest, t, run?_append hfirst hrest, hphase'.trans hphase, fun x hx => ?_,
      fun j hj => ?_, fun j hj => hkeeps' j (hkeeps j hj)⟩
    · exact (List.mem_append.1 hx).elim (hcalls x) (hcalls' x)
    · rcases List.mem_cons.1 hj with rfl | hj
      · exact hkeeps' j hover
      · exact hids j hj

section Returning

variable {g : Gateway} {credential : Credential} {socket : Text} {harbour : Harbour}
  {steps : List Step} {s : Server}

/-- A server that drains can return. -/
theorem exists_returned_of_draining
    (h : (start g credential socket harbour).run? steps = some s) (hphase : s.phase = .draining) :
    ∃ (more : List Step) (t : Server), s.run? more = some t ∧ t.phase = .returned ∧
      .trigger ∉ more ∧ .abandon ∉ more := by
  obtain ⟨calls, t, hrun, hsame, hcalls, hids, hkeeps⟩ := exists_all_over s (s.calls.map (·.1))
  have hover (id : Nat) : (t.call? id).all Call.isOver = true := by
    cases hc : s.call? id with
    | none => exact hkeeps id (by simp [hc])
    | some c => exact hids id (List.mem_map_of_mem (mem_calls_of_call? hc))
  have hdistinct := (watches_of_run? (run?_append h hrun)).distinct
  have hfinish : Becomes t .finish _ := .finish (hsame.trans hphase) fun x hx => by
    simpa [call?_of_mem hdistinct hx] using hover x.1
  refine ⟨calls ++ [.finish], _, run?_append hrun
    (Option.bind_eq_some_iff.2 ⟨_, step?_eq_some_iff.2 hfinish, rfl⟩), rfl, ?_, ?_⟩
  · simpa using fun hx => by cases hcalls _ hx
  · simpa using fun hx => by cases hcalls _ hx

/-- A server that has been told to stop can return, whatever its callers were about. -/
theorem exists_returned (h : (start g credential socket harbour).run? steps = some s)
    (hgiven : .trigger ∈ steps ∨ .abandon ∈ steps) :
    ∃ (more : List Step) (t : Server), s.run? more = some t ∧ t.phase = .returned ∧
      .trigger ∉ more ∧ .abandon ∉ more := by
  cases hphase : s.phase with
  | returned => exact ⟨[], s, rfl, hphase, by simp, by simp⟩
  | draining => exact exists_returned_of_draining h hphase
  | serving =>
    have hlook := ((watches_of_run? h).isSome_look_iff hphase).2 hgiven
    obtain ⟨u, hu⟩ := Option.isSome_iff_exists.1 hlook
    have hone : s.run? [.look] = some u := Option.bind_eq_some_iff.2 ⟨u, hu, rfl⟩
    have hdraining : u.phase = .draining := by
      cases step?_eq_some_iff.1 hu
      rfl
    obtain ⟨more, t, hmore, hreturned, htrigger, habandon⟩ :=
      exists_returned_of_draining (run?_append h hone) hdraining
    exact ⟨_, t, run?_append hone hmore, hreturned, by simpa using htrigger,
      by simpa using habandon⟩

/-- Once the server has returned every call is over. -/
theorem exists_over_of_returned (h : (start g credential socket harbour).run? steps = some s)
    (hreturned : s.phase = .returned) {id : Nat} {bytes : Bytes}
    (hconnect : .connect id bytes ∈ steps) : ∃ r, s.call? id = some (.over r) := by
  obtain ⟨c, events, hc, -⟩ := (tracks_of_run? h).course_of_connect hconnect
  have hover : c.isOver = true := (watches_of_run? h).returned hreturned _ (mem_calls_of_call? hc)
  match c with
  | .over r => exact ⟨r, hc⟩
  | .connected _ | .read _ | .admitted .. | .waiting .. | .answered .. => cases hover

end Returning

end Server

namespace Gateway

/-- A server of the gateway stops when it is told to, in either way, and drains: it returns when
each caller that has connected has what it would have without the stop, a reply in full among it,
serves nobody else, and leaves its socket where it is. -/
structure DrainsGracefully (g : Gateway) (credential : Credential) (socket : Text)
    (harbour : Harbour) : Prop where
  told : ∀ steps s, (Server.start g credential socket harbour).run? steps = some s →
    (s.phase = .serving → ((s.step? .look).isSome = true ↔ .trigger ∈ steps ∨ .abandon ∈ steps)) ∧
    (s.phase ≠ .serving → .trigger ∈ steps ∨ .abandon ∈ steps)
  answered : ∀ steps s, (Server.start g credential socket harbour).run? steps = some s →
    s.phase = .returned → ∀ id bytes, .connect id bytes ∈ steps → ∃ r,
      s.call? id = some (.over r) ∧
      (Server.own id steps).count .deliver = (if r.isSome then 1 else 0) ∧
      r.map Response.withoutConnection = (g.answerAlone credential
        (Call.replyIn (Server.own id steps)) bytes).map Response.withoutConnection
  /-- A caller has the full reply to its request, as far as the lengths in it fit. -/
  relayed : ∀ steps s, (Server.start g credential socket harbour).run? steps = some s →
    s.phase = .returned → ∀ id bytes q o, .connect id bytes ∈ steps →
      Call.Forwards g credential bytes q o → ∀ status h body complete, 200 ≤ status →
        .reply (.response status h body complete) ∈ Server.own id steps →
      ∃ r, s.call? id = some (.over r) ∧
        Call.Relayed r q.incoming.head.method status h body complete ∧
        ∀ l, h.HasLength l → (∀ n, l = some n → Http.LengthFits n body complete) →
          ∃ response, r = some response ∧
            response.Relays q.incoming.head.method status h body complete
  /-- Where no reply has come, a caller has been told so. -/
  unrelayed : ∀ steps s, (Server.start g credential socket harbour).run? steps = some s →
    s.phase = .returned → ∀ id bytes q o, .connect id bytes ∈ steps →
      Call.Forwards g credential bytes q o →
      (∀ status h body complete,
        .reply (.response status h body complete) ∉ Server.own id steps) →
      ∃ response, s.call? id = some (.over (some response)) ∧
        response.status = 502 ∧ response.body = [] ∧ response.complete = true
  /-- The same steps of the calls can be taken by a server that is not told to stop. -/
  same : ∀ steps s, (Server.start g credential socket harbour).run? steps = some s →
    ∃ t, (Server.start g credential socket harbour).run? (steps.filter Server.Step.isOfCall) =
        some t ∧ t.phase = .serving ∧ t.reached = s.reached ∧
      ∀ id, (t.call? id).map Call.withoutConnection = (s.call? id).map Call.withoutConnection
  refused : ∀ steps s, (Server.start g credential socket harbour).run? steps = some s →
    s.phase ≠ .serving → ∀ more t, s.run? more = some t →
      (∀ id bytes, .connect id bytes ∉ more) ∧
      (∀ id bytes, t.step? (.connect id bytes) = none) ∧
      ∀ path, t.harbour.connect path ≠ .ok Server.holder
  left : ∀ steps s, (Server.start g credential socket harbour).run? steps = some s →
    s.harbour.tree = harbour.tree ∧ s.harbour.home = harbour.home ∧
    ∀ (shore : Harbour) (events : List Log.Event) (p : Text),
      shore.bindAs socket Server.holder = (.ok (), harbour, events) →
      Address.ofText socket = .ok (.path p) →
        ∃ id, s.harbour.tree.IsSocketAt s.harbour.home p id
  returns : ∀ steps s, (Server.start g credential socket harbour).run? steps = some s →
    (.trigger ∈ steps ∨ .abandon ∈ steps) → ∃ (more : List Server.Step) (t : Server),
      s.run? more = some t ∧ t.phase = .returned ∧ .trigger ∉ more ∧ .abandon ∉ more

theorem drainsGracefully (g : Gateway) (credential : Credential) (socket : Text)
    (harbour : Harbour) : g.DrainsGracefully credential socket harbour where
  told steps s h := by
    have hwatches := Server.watches_of_run? h
    exact ⟨hwatches.isSome_look_iff, fun hstopped => (hwatches.stopped hstopped).1⟩
  answered steps s h hreturned id bytes hconnect := by
    obtain ⟨r, hover⟩ := Server.exists_over_of_returned h hreturned hconnect
    obtain ⟨c, events, hc, hcourse⟩ := (Server.tracks_of_run? h).course_of_connect hconnect
    cases hover.symm.trans hc
    obtain ⟨closing, -, hr⟩ := Server.hasAnswered_of_run? h id bytes r hconnect hover
    refine ⟨r, hover, hcourse.count_deliver, ?_⟩
    rw [hr, ← Call.outcome_eq_alone]
    exact Call.withoutConnection_outcome _ _ _ _ _
  relayed steps s h hreturned id bytes q o hconnect hforwards status headers body complete hfinal
      hreply := by
    obtain ⟨r, hover⟩ := Server.exists_over_of_returned h hreturned hconnect
    obtain ⟨closing, rfl⟩ := Server.delivered_of_reply h hconnect hforwards hreply hover
    exact ⟨_, hover, Call.relayed_delivered rfl hforwards.method closing,
      fun l hl hfits => Call.relays_delivered_of_fits rfl hforwards.method closing hl hfits⟩
  unrelayed steps s h hreturned id bytes q o hconnect hforwards hnone := by
    obtain ⟨r, hover⟩ := Server.exists_over_of_returned h hreturned hconnect
    obtain ⟨response, rfl, hparts⟩ := Server.badGateway_of_no_reply h hconnect hforwards hnone hover
    exact ⟨response, hover, hparts⟩
  same steps s h := by
    obtain ⟨t, ht, halike⟩ := Server.alike_of_run? ⟨rfl, rfl, rfl, rfl, fun _ => rfl⟩ h
    exact ⟨t, ht, halike.serving, halike.reached_eq, halike.call⟩
  refused steps s h hstopped more t hmore := by
    obtain ⟨hphase, hnone⟩ := Server.stopped_of_run? hstopped hmore
    refine ⟨hnone, fun id bytes => ?_, fun path hpath => ?_⟩
    · simp [Server.step?, hphase]
    · obtain ⟨e, he⟩ := Harbour.mem_listeners_of_connect hpath
      exact ((Server.watches_of_run? (Server.run?_append h hmore)).stopped hphase).2.2 e he
  left steps s h := by
    have hwatches := Server.watches_of_run? h
    refine ⟨hwatches.tree_eq, hwatches.home_eq, fun shore events p hbound hpath => ?_⟩
    obtain ⟨id, hsocket, -⟩ := Harbour.isSocketAt_of_bindAs hbound hpath
    rw [hwatches.tree_eq, hwatches.home_eq]
    exact ⟨id, hsocket⟩
  returns _ _ h hgiven := Server.exists_returned h hgiven

end Gateway

end CredentialGateway
