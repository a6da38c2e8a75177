import CredentialGateway.Proofs.NormalPath
import CredentialGateway.Proofs.Occurrences
import CredentialGateway.RequestUri

/-!
# Paths and queries of requests

The path of a request holds no blanks and no controls, so a URL passes over none of its characters.
Neither does its query, and neither holds a mark that would end it.

    parse bytes = .ok u → u.HasPathChars                             (hasPathChars_of_parse)
    parse bytes = .ok u → the query of u has the characters of one    (isQueryChar_of_parse)
-/

namespace CredentialGateway.RequestUri

/-- Every character of the path is one that a request can have there. -/
def HasPathChars (u : RequestUri) : Prop := ∀ c ∈ u.path, isPathChar c = true

instance (u : RequestUri) : Decidable u.HasPathChars :=
  decidable_of_iff (u.path.all isPathChar = true) List.all_eq_true

/-- The URL passes over no character of a request path. -/
theorem isIgnored_of_isPathChar {c : Char} (h : isPathChar c = true) :
    UrlPath.isIgnored c = false :=
  UrlPath.isIgnored_of_any (by decide) h

/-- No character beyond ASCII is excluded from a path or a query. -/
theorem allowed_of_le {excluded : List Char} (h : ∀ d ∈ excluded, d.toNat < 0x80) {c : Char}
    (hc : 0x80 ≤ c.toNat) : (0x20 < c.toNat && !excluded.contains c) = true := by
  simp only [Bool.and_eq_true, decide_eq_true_eq, Bool.not_eq_true', List.contains_eq_mem,
    decide_eq_false_iff_not]
  refine ⟨by omega, fun hm => ?_⟩
  have := h c hm
  omega

theorem isPathChar_of_le {c : Char} (h : 0x80 ≤ c.toNat) : isPathChar c = true :=
  allowed_of_le (Text.of_all (by decide)) h

theorem isQueryChar_of_le {c : Char} (h : 0x80 ≤ c.toNat) : isQueryChar c = true :=
  allowed_of_le (Text.of_all (by decide)) h

/-- A character of ASCII that is read stands for itself among the bytes. -/
theorem mem_of_decode {raw t : Text} (hraw : ∀ c ∈ raw, c.toNat < 256) (h : decode raw = .ok t)
    {c : Char} (hc : c ∈ t) (hlow : c.toNat < 0x80) : c ∈ raw := by
  unfold decode at h
  split at h
  · rename_i t' ht
    cases h
    have hb : UInt8.ofNat c.toNat ∈ t.utf8 := by
      refine List.mem_flatMap.2 ⟨c, hc, ?_⟩
      rw [Bytes.utf8EncodeChar_eq, if_pos (by omega)]
      simp
    rw [Bytes.text?_eq_some_iff.1 ht] at hb
    obtain ⟨d, hd, he⟩ := List.mem_map.1 hb
    have hdc := congrArg UInt8.toNat he
    rw [Bytes.toNat_ofNat (hraw d hd), Bytes.toNat_ofNat (by omega), Char.toNat_inj] at hdc
    exact hdc ▸ hd
  · cases h

/-- What is asked of the bytes, and holds beyond ASCII, holds of what they write. -/
theorem forall_mem_decode {q : Char → Bool} (hq : ∀ {c}, 0x80 ≤ c.toNat → q c = true)
    {raw t : Text} (hraw : ∀ c ∈ raw, c.toNat < 256) (hall : raw.all q = true)
    (h : decode raw = .ok t) : ∀ c ∈ t, q c = true := by
  intro c hc
  by_cases hlow : c.toNat < 0x80
  · exact List.all_eq_true.1 hall c (mem_of_decode hraw h hc hlow)
  · exact hq (by omega)

theorem pathAndQuery_ok {raw path : Text} {query : Option Text}
    (hraw : ∀ c ∈ raw, c.toNat < 256) (h : pathAndQuery raw = .ok (path, query)) :
    (∀ c ∈ path, isPathChar c = true) ∧ ∀ q, query = some q → ∀ c ∈ q, isQueryChar c = true := by
  have hfront : ∀ c ∈ (Text.cut '#' raw).1, c.toNat < 256 := fun c hc => by
    rw [Text.cut_fst] at hc
    exact hraw c ((List.takeWhile_sublist _).subset hc)
  -- what is cut at the question mark are parts of the front
  have hparts := Text.append_cut '?' (Text.cut '#' raw).1
  unfold pathAndQuery at h
  rcases hcut : Text.cut '?' (Text.cut '#' raw).1 with ⟨before, after⟩
  simp only [hcut] at hparts
  simp only [hcut, bind, Except.bind, pure, Except.pure, throw, throwThe,
    MonadExceptOf.throw] at h
  have hbefore : ∀ c ∈ before, c.toNat < 256 := fun c hc =>
    hfront c (hparts ▸ List.mem_append_left _ hc)
  split at h
  · cases h
  · rename_i hchars
    simp only [Bool.or_eq_true, Bool.not_eq_true', not_or, Bool.not_eq_false] at hchars
    obtain ⟨hpathChars, hqueryChars⟩ := hchars
    split at h
    · cases h
    · rename_i decoded hdecoded
      have hpath : ∀ c ∈ (if decoded = [] then ['/'] else decoded), isPathChar c = true := by
        intro c hc
        split at hc
        · obtain rfl := List.mem_singleton.1 hc
          decide
        · exact forall_mem_decode isPathChar_of_le hbefore hpathChars hdecoded c hc
      cases after with
      | none =>
        cases h
        exact ⟨hpath, fun q hq => by cases hq⟩
      | some raw' =>
        cases hquery : decode raw' with
        | error e =>
          simp only [hquery, Functor.map, Except.map] at h
          cases h
        | ok t =>
          simp only [hquery, Functor.map, Except.map] at h
          cases h
          refine ⟨hpath, fun q hq => ?_⟩
          cases hq
          exact forall_mem_decode isQueryChar_of_le
            (fun c hc => hfront c (hparts ▸ List.mem_append_right _ (List.mem_cons_of_mem _ hc)))
            hqueryChars hquery

theorem mem_of_scheme? {raw rest : Text} {scheme : Option Text}
    (h : scheme? raw = .ok (scheme, rest)) {c : Char} (hc : c ∈ rest) : c ∈ raw := by
  simp only [scheme?] at h
  split at h
  · have hdrop : rest = (raw.drop (raw.takeWhile isSchemeChar).length).drop 3 := by
      split at h
      · cases h
        rfl
      · split at h
        · cases h
        · cases h
          rfl
    rw [hdrop] at hc
    exact List.mem_of_mem_drop (List.mem_of_mem_drop hc)
  · cases h
    exact hc

/-- Path and query are read together, or there is no query, and the path is none or one character. -/
def IsRead (u : RequestUri) : Prop :=
  (u.path = [] ∨ u.path = ['*'] ∨ u.path = ['/']) ∧ u.query = none ∨
    ∃ raw, (∀ c ∈ raw, c.toNat < 256) ∧ pathAndQuery raw = .ok (u.path, u.query)

theorem parseFull_ok {raw : Text} {u : RequestUri} (hraw : ∀ c ∈ raw, c.toNat < 256)
    (h : parseFull raw = .ok u) : u.IsRead := by
  simp only [parseFull, bind, Except.bind, pure, Except.pure, throw, throwThe,
    MonadExceptOf.throw] at h
  split at h
  · cases h
  · rename_i s hs
    obtain ⟨scheme, rest⟩ := s
    have hrest : ∀ c ∈ (rest.span (!isAuthorityEnd ·)).2, c.toNat < 256 := fun c hc => by
      rw [List.span_eq_takeWhile_dropWhile] at hc
      exact hraw c (mem_of_scheme? hs ((List.dropWhile_sublist _).subset hc))
    split at h
    · cases h
    · split at h
      · split at h
        · cases h
          exact .inl ⟨.inl rfl, rfl⟩
        · cases h
      · split at h
        · cases h
        · split at h
          · cases h
          · rename_i hpath
            cases h
            exact .inr ⟨_, hrest, hpath⟩

/-- Where the path and the query of a request come from. -/
theorem isRead_of_parse {bytes : Bytes} {u : RequestUri} (h : parse bytes = .ok u) : u.IsRead := by
  have hraw : ∀ c ∈ Bytes.asciiText bytes, c.toNat < 256 := fun c hc => by
    obtain ⟨b, -, rfl⟩ := List.mem_map.1 hc
    have hb := b.toNat_lt
    rw [Char.ofNat, dif_pos (by simp only [Nat.isValidChar]; omega)]
    exact hb
  simp only [parse, bind, Except.bind, pure, Except.pure, throw, throwThe,
    MonadExceptOf.throw] at h
  split at h
  · cases h
  · split at h
    · cases h
    · cases h
      exact .inl ⟨.inr (.inl rfl), rfl⟩
    · split at h
      · cases h
        exact .inl ⟨.inr (.inr rfl), rfl⟩
      · split at h
        · cases h
        · split at h
          · cases h
          · cases h
            exact .inl ⟨.inl rfl, rfl⟩
    · split at h
      · cases h
      · rename_i hpath
        cases h
        exact .inr ⟨_, hraw, hpath⟩
    · exact parseFull_ok hraw h

/-- A request that is read has the characters of a path there. -/
theorem hasPathChars_of_parse {bytes : Bytes} {u : RequestUri} (h : parse bytes = .ok u) :
    u.HasPathChars := by
  rcases isRead_of_parse h with ⟨hpath, -⟩ | ⟨raw, hraw, hboth⟩
  · rcases hpath with hpath | hpath | hpath
    all_goals
      rw [HasPathChars, hpath]
      exact Text.of_all (by decide)
  · exact (pathAndQuery_ok hraw hboth).1

/-- So it is with the query, if there is one. -/
theorem isQueryChar_of_parse {bytes : Bytes} {u : RequestUri} (h : parse bytes = .ok u) {q : Text}
    (hq : u.query = some q) : ∀ c ∈ q, isQueryChar c = true := by
  rcases isRead_of_parse h with ⟨-, hnone⟩ | ⟨raw, hraw, hboth⟩
  · rw [hnone] at hq
    cases hq
  · exact (pathAndQuery_ok hraw hboth).2 q hq

end CredentialGateway.RequestUri
