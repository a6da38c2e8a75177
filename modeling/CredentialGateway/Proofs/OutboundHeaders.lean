import CredentialGateway.Proofs.PathSegments
import CredentialGateway.Proofs.Setup

/-!
# The headers of a forwarded request

Host, content type and credential are set after the headers of the hop have been taken out, so each
of the three has one value whatever the caller has sent, and whatever it nominates.  Every other
name keeps its values in order, unless it belongs to the hop.

A name is nominated if it stands between commas in a value of `Connection` that is text, with
nothing but blanks around it.  This is what the reader of the value finds.

    n ∈ members v ↔ v.Nominates n                                        (mem_members_iff)
    values of the outbound headers, name by name                   (values_outbound_headers)
-/

namespace CredentialGateway

/-! ## Members of a list -/

namespace Text

theorem intercalate_singleton_cons (c : Char) (m : Text) (rest : List Text) :
    [c].intercalate (m :: rest) = m ++ rest.flatMap (c :: ·) := by
  induction rest generalizing m with
  | nil => simp
  | cons r rest ih =>
    rw [List.intercalate_cons_cons, ih]
    simp

theorem intercalate_singleton_append_cons (c : Char) (front : List Text) (m : Text)
    (rest : List Text) : [c].intercalate (front ++ m :: rest) =
      front.flatMap (· ++ [c]) ++ m ++ rest.flatMap (c :: ·) := by
  induction front with
  | nil => exact intercalate_singleton_cons c m rest
  | cons f front ih =>
    rw [List.cons_append, List.intercalate_cons_of_ne_nil (by simp), ih]
    simp

/-- Between commas: a part of the text that holds none and has one, or the end, on each side. -/
theorem mem_splitOn_iff {c : Char} {m t : Text} : m ∈ t.splitOn c ↔
    c ∉ m ∧ ∃ before after, t = before ++ m ++ after ∧
      (before = [] ∨ before.getLast? = some c) ∧ (after = [] ∨ after.head? = some c) := by
  constructor
  · intro h
    refine ⟨fun hc => ?_, ?_⟩
    · rw [List.splitOn_eq_splitOnP] at h
      simpa using (of_mem_splitOnP h hc).1
    · obtain ⟨front, rest, hparts⟩ := List.append_of_mem h
      have ht : [c].intercalate (t.splitOn c) = t := List.intercalate_splitOn c
      rw [hparts, intercalate_singleton_append_cons] at ht
      refine ⟨_, _, ht.symm, ?_, ?_⟩
      · rcases List.eq_nil_or_concat front with rfl | ⟨front, f, rfl⟩
        · exact .inl rfl
        · right
          simp
      · cases rest with
        | nil => exact .inl rfl
        | cons r rest => exact .inr rfl
  · rintro ⟨hc, before, after, rfl, hb, ha⟩
    have hafter : m ∈ (m ++ after).splitOn c := by
      rcases ha with rfl | ha
      · rw [List.append_nil, List.splitOn_eq_singleton hc]
        exact List.mem_singleton_self m
      · obtain ⟨a, rfl⟩ := List.head?_eq_some_iff.1 ha
        rw [List.splitOn_append_cons_self_of_not_mem hc]
        exact List.mem_cons_self
    rcases hb with rfl | hb
    · exact hafter
    · obtain ⟨b, rfl⟩ := List.getLast?_eq_some_iff.1 hb
      rw [List.append_assoc, List.append_assoc, List.singleton_append,
        List.splitOn_append_cons_self]
      exact List.mem_append_right _ hafter

/-- What is trimmed stands on the two sides of what is left. -/
theorem exists_append_trimBy (p : Char → Bool) (t : Text) : ∃ lead trail,
    t = lead ++ trimBy p t ++ trail ∧ (∀ c ∈ lead, p c = true) ∧ ∀ c ∈ trail, p c = true := by
  refine ⟨t.takeWhile p, ((t.dropWhile p).reverse.takeWhile p).reverse, ?_, ?_, ?_⟩
  · rw [trimBy, List.append_assoc, ← List.reverse_append, List.takeWhile_append_dropWhile,
      List.reverse_reverse, List.takeWhile_append_dropWhile]
  · exact fun c hc => List.mem_takeWhile_imp hc
  · exact fun c hc => List.mem_takeWhile_imp (List.mem_reverse.1 hc)

theorem trimBy_append {p : Char → Bool} {lead core trail : Text}
    (hl : ∀ c ∈ lead, p c = true) (ht : ∀ c ∈ trail, p c = true) (hne : core ≠ [])
    (hc : ∀ c ∈ core, p c = false) : trimBy p (lead ++ core ++ trail) = core := by
  -- text whose first character stays is left alone from that side
  have keep {s : Text} (hs : s ≠ []) (h : ∀ c ∈ s, p c = false) (rest : Text) :
      (s ++ rest).dropWhile p = s ++ rest := by
    obtain ⟨d, s, rfl⟩ := List.exists_cons_of_ne_nil hs
    rw [List.cons_append, List.dropWhile_cons, if_neg (by simp [h d])]
  have hback := keep (s := core.reverse) (by simpa using hne)
    (fun c hm => hc c (by simpa using hm)) []
  rw [List.append_nil] at hback
  rw [trimBy, List.append_assoc, List.dropWhile_append_of_pos hl, keep hne hc,
    List.reverse_append, List.dropWhile_append_of_pos fun c hm => ht c (List.mem_reverse.1 hm),
    hback, List.reverse_reverse]

end Text

/-! ## Nominated names -/

theorem HeaderName.ext_text {m n : HeaderName} (h : m.text = n.text) : m = n := by
  obtain ⟨m, hm⟩ := m
  obtain ⟨n, hn⟩ := n
  cases h
  rfl

theorem HeaderName.ofText?_eq_some_iff {t : Text} {n : HeaderName} :
    HeaderName.ofText? t = some n ↔ t.lower = n.text := by
  unfold HeaderName.ofText?
  constructor
  · intro h
    split at h
    · cases h
      rfl
    · cases h
  · intro h
    rw [dif_pos (h ▸ n.valid)]
    exact congrArg some (HeaderName.ext_text h)

/-- A name is a token, in whatever case it is written. -/
theorem HeaderName.isTokenChar_of_lower_eq {t : Text} {n : HeaderName} (h : t.lower = n.text)
    {c : Char} (hc : c ∈ t) : isTokenChar c.toLower = true := by
  have hv := n.valid
  simp only [isHeaderName, Bool.and_eq_true, List.all_eq_true] at hv
  exact (hv.2 c.toLower (h ▸ List.mem_map_of_mem hc)).1

/-- The value is text, and the name stands in it between commas with blanks around it. -/
def HeaderValue.Nominates (v : HeaderValue) (n : HeaderName) : Prop :=
  ∃ t, v.text? = some t ∧ ∃ before lead name trail after,
    t = before ++ (lead ++ name ++ trail) ++ after ∧
    (before = [] ∨ before.getLast? = some ',') ∧ (after = [] ∨ after.head? = some ',') ∧
    (∀ c ∈ lead ++ trail, c = ' ' ∨ c = '\t') ∧ name.lower = n.text

namespace Headers

theorem isBlank_iff {c : Char} : isBlank c = true ↔ c = ' ' ∨ c = '\t' := by
  simp [isBlank]

theorem mem_members_iff {v : HeaderValue} {n : HeaderName} : n ∈ members v ↔ v.Nominates n := by
  unfold members HeaderValue.Nominates
  cases v.text? with
  | none => simp
  | some t =>
    simp only [Option.some.injEq, exists_eq_left', List.mem_filterMap, Text.mem_splitOn_iff,
      HeaderName.ofText?_eq_some_iff]
    constructor
    · rintro ⟨m, ⟨-, before, after, rfl, hb, ha⟩, hn⟩
      obtain ⟨lead, trail, hm, hl, ht⟩ := Text.exists_append_trimBy isBlank m
      refine ⟨before, lead, _, trail, after, by rw [← hm], hb, ha, fun c hc => ?_, hn⟩
      rcases List.mem_append.1 hc with hc | hc
      · exact isBlank_iff.1 (hl c hc)
      · exact isBlank_iff.1 (ht c hc)
    · rintro ⟨before, lead, name, trail, after, rfl, hb, ha, hblank, hn⟩
      have htoken {c : Char} (hc : c ∈ name) := HeaderName.isTokenChar_of_lower_eq hn hc
      have hne : name ≠ [] := by
        rintro rfl
        have hv := n.valid
        rw [← hn] at hv
        cases hv
      refine ⟨lead ++ name ++ trail, ⟨fun hc => ?_, before, after, rfl, hb, ha⟩, ?_⟩
      · simp only [List.mem_append] at hc hblank
        rcases hc with (hc | hc) | hc
        · exact absurd (hblank _ (.inl hc)) (by decide)
        · exact absurd (htoken hc) (by decide)
        · exact absurd (hblank _ (.inr hc)) (by decide)
      · rw [Text.trimBy_append (fun c hc => isBlank_iff.2 (hblank c (by simp [hc])))
          (fun c hc => isBlank_iff.2 (hblank c (by simp [hc]))) hne fun c hc => ?_]
        · exact hn
        · rw [Bool.eq_false_iff]
          intro hbl
          rcases isBlank_iff.1 hbl with rfl | rfl <;> exact absurd (htoken hc) (by decide)

theorem mem_nominated_iff {n : HeaderName} {h : Headers} :
    n ∈ nominated h ↔ ∃ v ∈ values .connection h, v.Nominates n := by
  simp only [nominated, List.mem_flatMap, mem_members_iff]

end Headers

/-! ## The credential -/

/-- A secret that fits into a header value stands behind the scheme, without a word; any other leaves
the scheme bare, and that is reported. -/
theorem Credential.header_cases (credential : Credential) :
    credential.secret.utf8.all isFieldByte = true ∧ (∃ v : HeaderValue,
      v.bytes = Credential.bearer.utf8 ++ credential.secret.utf8 ∧
        credential.header = (v.hidden, [])) ∨
    credential.secret.utf8.all isFieldByte = false ∧
      credential.header = (Credential.bareHeader, [.credentialUnfit]) := by
  have hutf8 : (Credential.bearer ++ credential.secret).utf8 =
      Credential.bearer.utf8 ++ credential.secret.utf8 := List.flatMap_append
  have hfit : (Credential.bearer ++ credential.secret).utf8.all isFieldByte =
      credential.secret.utf8.all isFieldByte := by
    rw [hutf8, List.all_append, show Credential.bearer.utf8.all isFieldByte = true by decide,
      Bool.true_and]
  unfold Credential.header HeaderValue.ofText? HeaderValue.ofBytes?
  by_cases hbytes : (Credential.bearer ++ credential.secret).utf8.all isFieldByte = true
  · rw [dif_pos hbytes]
    exact .inl ⟨hfit ▸ hbytes, _, hutf8, rfl⟩
  · rw [dif_neg hbytes]
    exact .inr ⟨Bool.eq_false_iff.2 (hfit ▸ hbytes), rfl⟩

theorem Credential.bytes_header (credential : Credential) : credential.header.1.bytes =
    if credential.secret.utf8.all isFieldByte = true then
      Credential.bearer.utf8 ++ credential.secret.utf8
    else Credential.bearer.utf8 := by
  rcases credential.header_cases with ⟨hfit, v, hv, h⟩ | ⟨hfit, h⟩
  · rw [h, if_pos hfit]
    exact hv
  · rw [h, if_neg (by simp [hfit])]
    rfl

/-! ## Outbound headers -/

namespace Target

/-- The three names whose values are the gateway's own. -/
def forced : List HeaderName := [.host, .contentType, .authorization]

/-- What a configuration gives for the first two. -/
theorem bytes_forced {c : ServiceConfig} {t : Target} (h : ofConfig c = .ok t) :
    ∃ a, t.base.authority = some a ∧ t.host.bytes = a.hostPort.utf8 ∧
      t.contentType.bytes = c.contentType.utf8 := by
  obtain ⟨a, -, ha, hhost, htype, -⟩ := ofConfig_eq_ok_iff.1 h
  exact ⟨a, ha, (HeaderValue.ofText?_eq_some_iff.1 hhost).1,
    (HeaderValue.ofText?_eq_some_iff.1 htype).1⟩

/-- What is set last is what stands. -/
theorem values_headers (t : Target) (authorization : HeaderValue) (h : Headers) (n : HeaderName) :
    Headers.values n (t.headers authorization h) =
      if n = .authorization then [authorization]
      else if n = .contentType then [t.contentType]
      else if n = .host then [t.host]
      else if n ∈ Headers.nominated h ++ Headers.always then []
      else Headers.values n h := by
  rw [← Headers.values_withoutHopByHop]
  simp only [headers, Headers.values_insert]

/-- Name by name, what leaves the gateway: one value each of host, content type and credential, and
of every other name what the caller gave, unless it belongs to the hop. -/
theorem values_outbound_headers (t : Target) (credential : Credential) (r : RequestHead) :
    let h := (t.outbound credential.header.1 r).headers
    Headers.values .host h = [t.host] ∧
    Headers.values .contentType h = [t.contentType] ∧
    (∀ c, ofConfig c = .ok t → ∃ a, t.base.authority = some a ∧
      t.host.bytes = a.hostPort.utf8 ∧ t.contentType.bytes = c.contentType.utf8) ∧
    (∃ v, Headers.values .authorization h = [v] ∧ v.bytes =
      if credential.secret.utf8.all isFieldByte = true then
        Credential.bearer.utf8 ++ credential.secret.utf8
      else Credential.bearer.utf8) ∧
    ∀ n, n ∉ forced →
      ((n ∈ Headers.always ∨ ∃ v ∈ Headers.values .connection r.headers, v.Nominates n) →
        Headers.values n h = []) ∧
      (¬ (n ∈ Headers.always ∨ ∃ v ∈ Headers.values .connection r.headers, v.Nominates n) →
        Headers.values n h = Headers.values n r.headers) := by
  intro h
  have hvalues (n : HeaderName) : Headers.values n h = _ :=
    t.values_headers credential.header.1 r.headers n
  refine ⟨?_, ?_, fun c hc => bytes_forced hc, ⟨credential.header.1, ?_, credential.bytes_header⟩,
    fun n hn => ?_⟩
  · rw [hvalues, if_neg (by decide), if_neg (by decide), if_pos rfl]
  · rw [hvalues, if_neg (by decide), if_pos rfl]
  · rw [hvalues, if_pos rfl]
  · simp only [forced, List.mem_cons, List.not_mem_nil, or_false, not_or] at hn
    rw [hvalues, if_neg hn.2.2, if_neg hn.2.1, if_neg hn.1]
    have hhop : n ∈ Headers.nominated r.headers ++ Headers.always ↔
        n ∈ Headers.always ∨ ∃ v ∈ Headers.values .connection r.headers, v.Nominates n := by
      rw [List.mem_append, Headers.mem_nominated_iff, or_comm]
    rw [← hhop]
    exact ⟨fun hm => if_pos hm, fun hm => if_neg hm⟩

end Target

end CredentialGateway
