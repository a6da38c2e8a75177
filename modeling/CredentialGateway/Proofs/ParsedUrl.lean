import CredentialGateway.Proofs.NormalPath
import CredentialGateway.Url.Parser

/-!
# What a URL is read from

One law for each function of the reader says what an accepted text has been checked for.  Together
they describe every URL that is read: where each part comes from, and that the port is never the one
of the scheme.  Setting the path and the query keeps a URL within that description.

    parse t = .ok u → u.IsRead                                              (isRead_of_parse)
    u.IsRead → (u.withPath p).IsRead and (u.withQuery q).IsRead
    path of u.extend p = the path of u, and the segments of p resolved on top        (path_extend)
-/

namespace CredentialGateway

/-! ## Outcomes -/

section Outcomes

variable {ε ε' α β : Type}

theorem bind_eq_ok_iff {x : Except ε α} {f : α → Except ε β} {b : β} :
    (x >>= f) = .ok b ↔ ∃ a, x = .ok a ∧ f a = .ok b := by
  cases x <;> simp [bind, Except.bind]

theorem pure_eq_ok_iff {a b : α} : (pure a : Except ε α) = .ok b ↔ a = b := by
  simp [pure, Except.pure]

theorem throw_ne_ok {e : ε} {a : α} : (throw e : Except ε α) ≠ .ok a := by
  simp [throw, throwThe, MonadExceptOf.throw]

theorem mapError_eq_ok_iff {x : Except ε α} {f : ε → ε'} {a : α} :
    x.mapError f = .ok a ↔ x = .ok a := by
  cases x <;> simp [Except.mapError]

end Outcomes

/-! ## Descriptions -/

/-- The authority is one that can be read under the scheme. -/
structure Authority.IsRead (scheme : Text) (a : Authority) : Prop where
  user : ∃ t, a.user = Url.userInfo t
  host : ∃ t, Host.parse t = .ok a.host ∨ Host.parsePlain t = .ok a.host
  port : ∀ n, a.port = some n → Url.defaultPort scheme ≠ some n

/-- Each part of the URL has the form in which it is read. -/
structure Url.IsRead (u : Url) : Prop where
  scheme : ∃ t rest, Url.scheme? t = some (u.scheme, rest)
  authority : ∀ a, u.authority = some a → a.IsRead u.scheme
  path : u.authority.isSome → ∃ t, u.path = Url.normalPath u.scheme t
  query : ∃ q : Option Text, u.query = q.map (Url.normalQuery u.scheme)
  fragment : ∃ f : Option Text, u.fragment = f.map (Percent.encode Percent.fragmentSet)

namespace Url

/-! ## Authorities -/

/-- The scheme's own port is left out. -/
theorem readPort_ok {scheme t rest : Text} {port : Option Nat}
    (h : readPort scheme t = .ok (port, rest)) :
    ∀ n, port = some n → defaultPort scheme ≠ some n := by
  unfold readPort at h
  split at h
  · obtain ⟨⟨m, rest'⟩, -, h⟩ := bind_eq_ok_iff.1 h
    rw [pure_eq_ok_iff, Prod.mk.injEq] at h
    rintro n rfl hn
    obtain ⟨h, -⟩ := h
    split at h
    · cases h
    · rename_i hm
      exact hm (h.trans hn.symm)
  · cases h
    rintro n ⟨⟩

/-- An authority that is there has been read from a user, a host and a port. -/
theorem readAuthority_ok {scheme t rest : Text} {atEnd : Bool} {a : Authority}
    (h : readAuthority scheme t atEnd = .ok (some a, rest)) : a.IsRead scheme := by
  simp only [readAuthority, bind, Except.bind, pure, Except.pure, throw, throwThe,
    MonadExceptOf.throw] at h
  split at h
  · cases h
  · split at h
    · cases h
    · -- the two readers of hosts are followed by the same steps
      split at h
      all_goals
        split at h
        · cases h
        · rename_i host hhost
          split at h
          · split at h <;> cases h
          · split at h
            · cases h
            · rename_i port hport
              cases h
              refine ⟨⟨_, rfl⟩, ?_, readPort_ok hport⟩
              first
              | exact ⟨_, .inl hhost⟩
              | exact ⟨_, .inr hhost⟩

/-! ## Front parts -/

theorem parseSpecial_ok {scheme t path : Text} {atEnd : Bool} {a : Option Authority}
    (h : parseSpecial scheme t atEnd = .ok (a, path)) :
    (∀ b, a = some b → b.IsRead scheme) ∧ ∃ x, path = normalPath scheme x := by
  obtain ⟨⟨b, rest⟩, hb, h⟩ := bind_eq_ok_iff.1 h
  cases pure_eq_ok_iff.1 h
  refine ⟨?_, _, rfl⟩
  rintro b rfl
  exact readAuthority_ok hb

theorem parsePlain_ok {scheme t path : Text} {atEnd : Bool} {a : Authority}
    (h : parsePlain scheme t atEnd = .ok (some a, path)) :
    a.IsRead scheme ∧ ∃ x, path = normalPath scheme x := by
  unfold parsePlain at h
  split at h
  · obtain ⟨⟨b, rest⟩, hb, h⟩ := bind_eq_ok_iff.1 h
    cases pure_eq_ok_iff.1 h
    exact ⟨readAuthority_ok hb, _, rfl⟩
  · cases pure_eq_ok_iff.1 h
  · cases pure_eq_ok_iff.1 h

theorem fileHost_ok {name : Text} {host : Host} (h : fileHost name = .ok (some host)) :
    Host.parse name = .ok host := by
  unfold fileHost at h
  split at h
  · cases pure_eq_ok_iff.1 h
  · obtain ⟨read, hread, h⟩ := bind_eq_ok_iff.1 h
    rw [hread]
    split at h
    · rw [pure_eq_ok_iff] at h
      split at h
      · cases h
      · cases h
        rfl
    · cases pure_eq_ok_iff.1 h
      rfl

theorem parseFile_ok {t path : Text} {a : Authority} (h : parseFile t = .ok (some a, path)) :
    a.IsRead "file" ∧ ∃ x, path = normalPath "file" x := by
  simp only [parseFile] at h
  split at h
  · split at h
    · obtain ⟨host, hhost, h⟩ := bind_eq_ok_iff.1 h
      rw [pure_eq_ok_iff, Prod.mk.injEq] at h
      obtain ⟨ha, rfl⟩ := h
      refine ⟨?_, _, by rw [normalPath, if_pos rfl]⟩
      obtain ⟨b, rfl, rfl⟩ := Option.map_eq_some_iff.1 (Option.ite_none_left_eq_some.1 ha).2
      exact ⟨⟨[], rfl⟩, ⟨_, .inl (fileHost_ok hhost)⟩, by simp⟩
    · cases pure_eq_ok_iff.1 h
  · cases pure_eq_ok_iff.1 h

/-! ## URLs -/

/-- The parts of a URL that is read. -/
theorem isRead_of_parse {t : Text} {u : Url} (h : parse t = .ok u) : u.IsRead := by
  simp only [parse, bind, Except.bind, pure, Except.pure, throw, throwThe,
    MonadExceptOf.throw] at h
  split at h
  · rename_i scheme rest hscheme
    split at h
    · rename_i hfile
      subst hfile
      split at h
      · cases h
      · rename_i front hfront
        cases h
        obtain ⟨a, path⟩ := front
        refine ⟨⟨_, _, hscheme⟩, ?_, ?_, ⟨_, rfl⟩, ⟨_, rfl⟩⟩
        · rintro b rfl
          exact (parseFile_ok hfront).1
        · intro ha
          obtain ⟨b, rfl⟩ := Option.isSome_iff_exists.1 ha
          exact (parseFile_ok hfront).2
    · split at h
      · split at h
        · cases h
        · rename_i front hfront
          cases h
          have hp := parseSpecial_ok hfront
          exact ⟨⟨_, _, hscheme⟩, hp.1, fun _ => hp.2, ⟨_, rfl⟩, ⟨_, rfl⟩⟩
      · split at h
        · cases h
        · rename_i front hfront
          cases h
          obtain ⟨a, path⟩ := front
          refine ⟨⟨_, _, hscheme⟩, ?_, ?_, ⟨_, rfl⟩, ⟨_, rfl⟩⟩
          · rintro b rfl
            exact (parsePlain_ok hfront).1
          · intro ha
            obtain ⟨b, rfl⟩ := Option.isSome_iff_exists.1 ha
            exact (parsePlain_ok hfront).2
  · cases h

theorem isRead_withPath {u : Url} (h : u.IsRead) (path : Text) : (u.withPath path).IsRead :=
  { h with path := fun _ => ⟨path, rfl⟩ }

theorem isRead_withQuery {u : Url} (h : u.IsRead) (query : Option Text) :
    (u.withQuery query).IsRead :=
  { h with query := ⟨query, rfl⟩ }

/-- Under the schemes of the web a path is in normal form. -/
theorem path_eq_print {u : Url} (h : u.IsRead) (ha : u.authority.isSome)
    (hs : u.scheme = "http" ∨ u.scheme = "https") :
    ∃ ss, ss ≠ [] ∧ (∀ s ∈ ss, UrlPath.IsNormal s) ∧ u.path = UrlPath.print ss := by
  obtain ⟨t, ht⟩ := h.path ha
  rw [ht, normalPath_of_web hs]
  exact UrlPath.normalize_eq_print t

/-- So it is without slashes at the end. -/
theorem dropTrailing_path_eq_print {u : Url} (h : u.IsRead) (ha : u.authority.isSome)
    (hs : u.scheme = "http" ∨ u.scheme = "https") :
    ∃ ts, (∀ s ∈ ts, UrlPath.IsNormal s) ∧ Text.dropTrailing '/' u.path = UrlPath.print ts := by
  obtain ⟨ss, -, hss, hp⟩ := path_eq_print h ha hs
  obtain ⟨ts, hpre, ht⟩ :=
    UrlPath.dropTrailing_print fun s hm => UrlPath.slash_notMem_of_isNormal (hss s hm)
  exact ⟨ts, fun s hm => hss s (hpre.subset hm), by rw [hp, ht]⟩

/-! ## Longer paths -/

/-- The URL with a path set behind its own. -/
def extend (u : Url) (path : Text) : Url :=
  u.withPath (Text.dropTrailing '/' u.path ++ path)

/-- The path of the URL stays, and what is behind it is resolved on top. -/
theorem path_extend {u : Url} (hscheme : u.scheme = "http" ∨ u.scheme = "https") {ts : List Text}
    (hts : ∀ s ∈ ts, UrlPath.IsNormal s)
    (hground : Text.dropTrailing '/' u.path = UrlPath.print ts) {path w : Text}
    (hpath : path.filter (!UrlPath.isIgnored ·) = '/' :: w) :
    (u.extend path).path =
      UrlPath.print (UrlPath.resolveOnto ts.reverse (Path.segments w)) := by
  show normalPath u.scheme (Text.dropTrailing '/' u.path ++ path) = _
  rw [normalPath_of_web hscheme, hground]
  exact UrlPath.normalize_print_append hts hpath

end Url

end CredentialGateway
