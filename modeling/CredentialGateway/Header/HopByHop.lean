import CredentialGateway.Header.Basic

/-!
# Headers of one hop

Nine names always belong to the connection they were sent on, and each value of `Connection`
nominates further ones.  `withoutHopByHop` removes them all.  A value of `Connection` that is not
text nominates nothing; a member that is no header name is passed over and shields no other.

    values n (withoutHopByHop h) = if n ∈ nominated h ++ always then [] else values n h
                                                             (values_withoutHopByHop)
-/

namespace CredentialGateway.Headers

/-! ## Algorithm -/

/-- The names that never cross to the next hop. -/
def always : List HeaderName :=
  [.connection, .proxyConnection, .keepAlive, .proxyAuthenticate, .proxyAuthorization, .te,
    .trailer, .transferEncoding, .upgrade]

/-- A member of a list is read without the blanks around it. -/
def isBlank (c : Char) : Bool := c == ' ' || c == '\t'

/-- The names in one comma-separated value. -/
def members (v : HeaderValue) : List HeaderName :=
  match v.text? with
  | some t => (t.splitOn ',').filterMap fun m => HeaderName.ofText? (Text.trimBy isBlank m)
  | none => []

/-- The names that the `Connection` values nominate. -/
def nominated (h : Headers) : List HeaderName := (values .connection h).flatMap members

/-- The headers that go on to the next hop. -/
def withoutHopByHop (h : Headers) : Headers :=
  (nominated h ++ always).foldl (fun h name => erase name h) h

/-! ## Lemmas -/

theorem values_foldl_erase (n : HeaderName) (names : List HeaderName) (h : Headers) :
    values n (names.foldl (fun h name => erase name h) h) =
      if n ∈ names then [] else values n h := by
  induction names generalizing h with
  | nil => simp
  | cons m ms ih =>
    rw [List.foldl_cons, ih, values_erase]
    by_cases hm : n = m
    · simp [hm]
    · simp [hm]

/-- What is left of each name. -/
theorem values_withoutHopByHop (n : HeaderName) (h : Headers) :
    values n (withoutHopByHop h) = if n ∈ nominated h ++ always then [] else values n h :=
  values_foldl_erase n _ h

end CredentialGateway.Headers
