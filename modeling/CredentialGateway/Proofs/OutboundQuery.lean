import CredentialGateway.Proofs.RequestPath
import CredentialGateway.Proofs.Setup

/-!
# The query of a forwarded request

The query of a request takes the place of the one in the base URL.  A request may have characters in
its query that a URL of the web does not write as they are: the single quote, DEL, and everything
beyond ASCII.  Those are percent-encoded, byte by byte, and every other character stands for itself.
So a query goes through unchanged exactly if it has none of them, and what it stands for is the same
in any case.

    outbound query = query of the request, with these characters encoded        (query_url)
    outbound query = query of the request ↔ it has none of these         (query_outbound_iff)
-/

namespace CredentialGateway

/-! ## Queries of the web -/

namespace Url

/-- The characters that a request can have in its query and a URL of the web cannot. -/
def isRewritten (c : Char) : Bool := c == '\x27' || 0x7F ≤ c.toNat

theorem digit?_of_isRewritten {c : Char} (h : isRewritten c = true) : Hex.digit? c = none := by
  simp only [isRewritten, Bool.or_eq_true, beq_iff_eq, decide_eq_true_eq] at h
  rcases h with rfl | h
  · decide
  · exact Hex.digit?_of_le h

/-- Of the characters that a request can have there, the URL encodes no others. -/
theorem querySet_of_isQueryChar {c : Char} (h : RequestUri.isQueryChar c = true) :
    Percent.querySet true c = isRewritten c := by
  simp only [RequestUri.isQueryChar, Bool.and_eq_true, decide_eq_true_eq, Bool.not_eq_true',
    List.contains_eq_mem, decide_eq_false_iff_not, List.mem_cons, List.not_mem_nil, or_false,
    not_or] at h
  obtain ⟨hlow, h1, h2, h3, h4⟩ := h
  have hblank : c ≠ ' ' := by
    rintro rfl
    exact absurd hlow (by decide)
  have hcontrol : ¬ c.toNat < 0x20 := by omega
  simp [Percent.querySet, Percent.controlSet, isRewritten, hcontrol, hblank, h1, h2, h3, h4,
    Bool.or_comm]

/-- A URL passes over no character that a request can have in its query. -/
theorem isIgnored_of_isQueryChar {c : Char} (h : RequestUri.isQueryChar c = true) :
    UrlPath.isIgnored c = false :=
  UrlPath.isIgnored_of_any (by decide) h

theorem normalQuery_of_isQueryChar {scheme : Text} (hscheme : scheme = "http" ∨ scheme = "https")
    {q : Text} (h : ∀ c ∈ q, RequestUri.isQueryChar c = true) :
    normalQuery scheme q = Percent.encode isRewritten q := by
  rw [normalQuery_of_web hscheme,
    UrlPath.filter_of_forall fun c hc => isIgnored_of_isQueryChar (h c hc)]
  exact Percent.encode_congr fun c hc => querySet_of_isQueryChar (h c hc)

end Url

/-! ## Outbound queries -/

namespace Target

/-- The query of the request, and nothing of the base URL. -/
theorem query_url {t : Target} (hscheme : t.base.scheme = "http" ∨ t.base.scheme = "https")
    {bytes : Bytes} {uri : RequestUri} (huri : RequestUri.parse bytes = .ok uri) :
    (t.url uri).query = uri.query.map (Percent.encode Url.isRewritten) := by
  show uri.query.map (Url.normalQuery t.base.scheme) = _
  cases hq : uri.query with
  | none => rfl
  | some q =>
    exact congrArg some (Url.normalQuery_of_isQueryChar hscheme
      (RequestUri.isQueryChar_of_parse huri hq))

/-- The query goes through as it is exactly if it has none of the characters that are rewritten.
There is one, or an empty one, exactly if the request has it so, and in any case it stands for the
same bytes. -/
theorem query_outbound_iff {t : Target}
    (hscheme : t.base.scheme = "http" ∨ t.base.scheme = "https") {bytes : Bytes} {r : RequestHead}
    (huri : RequestUri.parse bytes = .ok r.uri) (authorization : HeaderValue) :
    let query := (t.outbound authorization r).url.query
    query = r.uri.query.map (Percent.encode Url.isRewritten) ∧
    (query = none ↔ r.uri.query = none) ∧ (query = some [] ↔ r.uri.query = some []) ∧
    (query = r.uri.query ↔ ∀ q, r.uri.query = some q → ∀ c ∈ q, Url.isRewritten c = false) ∧
    query.map Percent.decode = r.uri.query.map Percent.decode := by
  intro query
  have hquery : query = _ := query_url hscheme huri
  rw [hquery]
  cases r.uri.query with
  | none => simp
  | some q =>
    have hdecode : Percent.decode (Percent.encode Url.isRewritten q) = Percent.decode q :=
      Percent.decode_encode (fun _ => Url.digit?_of_isRewritten) (by decide) q
    refine ⟨rfl, by simp, ?_, ?_, congrArg some hdecode⟩
    · simp [Percent.encode_eq_nil_iff]
    · simp [Percent.encode_eq_self_iff]

/-- A quote that is encoded already, and characters that only other parts of a URL encode. -/
theorem query_outbound_iff_encoded :
    RequestUri.parse (Text.utf8 "/openai/x?a=%27&b=[|]^") =
      .ok ⟨none, none, "/openai/x", some "a=%27&b=[|]^"⟩ ∧
    (Target.loopback.outbound Credential.bareHeader
      ⟨"GET", ⟨none, none, "/openai/x", some "a=%27&b=[|]^"⟩, []⟩).url.query =
        some "a=%27&b=[|]^" := by
  have huri : RequestUri.parse (Text.utf8 "/openai/x?a=%27&b=[|]^") =
      .ok ⟨none, none, "/openai/x", some "a=%27&b=[|]^"⟩ := by cbv
  refine ⟨huri, ((query_outbound_iff (t := .loopback) (.inl rfl)
    (r := ⟨"GET", ⟨none, none, "/openai/x", some "a=%27&b=[|]^"⟩, []⟩) huri
    Credential.bareHeader).2.2.2.1).2 ?_⟩
  intro q hq
  cases hq
  exact Text.of_all (by decide)

/-- A quote comes out encoded. -/
theorem query_outbound_ne_quoted :
    RequestUri.parse (Text.utf8 "/openai/x?q=\x27a\x27") =
      .ok ⟨none, none, "/openai/x", some "q=\x27a\x27"⟩ ∧
    let query := (Target.loopback.outbound Credential.bareHeader
      ⟨"GET", ⟨none, none, "/openai/x", some "q=\x27a\x27"⟩, []⟩).url.query
    query = some "q=%27a%27" ∧ query ≠ some "q=\x27a\x27" := by
  refine ⟨by cbv, ?_⟩
  intro query
  have hquery : query = some "q=%27a%27" := by rfl
  refine ⟨hquery, ?_⟩
  rw [hquery]
  decide

end Target

end CredentialGateway
