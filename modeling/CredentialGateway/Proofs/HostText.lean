import CredentialGateway.Proofs.Encoding
import CredentialGateway.Proofs.Occurrences
import CredentialGateway.Proofs.PathSegments
import CredentialGateway.Url.Host

/-!
# Characters of hosts

A domain is checked for forbidden characters before its labels are written in ASCII, and what is
written then is made of the characters that were there, of letters, digits and hyphens.  Addresses
are written with digits, dots and colons, and colons stand in brackets.  So no host holds a
character that ends it, or that ends the part of a URL in which it stands.

    Host.parse t = .ok h → h.IsPlain                                        (isPlain_of_parse)
    h.IsPlain → h.text has no forbidden character, or stands in brackets        (text_cases)
-/

namespace CredentialGateway

/-! ## Labels in ASCII -/

namespace Punycode

theorem mem_digits {bias k n : Nat} {c : Char} (h : c ∈ digits bias k n) :
    ∃ d < 36, c = digitChar d := by
  fun_induction digits bias k n with
  | case1 k n t hn =>
    have := threshold_le k bias
    exact ⟨n, by omega, List.mem_singleton.1 h⟩
  | case2 k n t hn ih =>
    have := threshold_le k bias
    rcases List.mem_cons.1 h with rfl | h
    · have := Nat.mod_lt (n - t) (show 0 < 36 - t by omega)
      exact ⟨_, by omega, rfl⟩
    · exact ih h

/-- Each pass and each insertion only adds digits. -/
theorem mem_text_pass {ascii code : Nat} {w : Written} {d c : Char}
    (h : c ∈ (pass ascii code w d).text) : c ∈ w.text ∨ ∃ d < 36, c = digitChar d := by
  unfold pass at h
  split at h
  · exact .inl h
  · split at h
    · exact (List.mem_append.1 h).imp_right mem_digits
    · exact .inl h

theorem mem_text_foldl {ascii code : Nat} {t : Text} {w : Written} {c : Char}
    (h : c ∈ (t.foldl (pass ascii code) w).text) : c ∈ w.text ∨ ∃ d < 36, c = digitChar d := by
  induction t generalizing w with
  | nil => exact .inl h
  | cons d t ih => exact (ih h).elim mem_text_pass .inr

theorem mem_text_insertCodes {t : Text} {ascii next : Nat} {codes : List Nat} {w : Written}
    {c : Char} (h : c ∈ (insertCodes t ascii codes next w).text) :
    c ∈ w.text ∨ ∃ d < 36, c = digitChar d := by
  induction codes generalizing next w with
  | nil => exact .inl h
  | cons code codes ih => exact (ih h).elim mem_text_foldl .inr

/-- A text is written with its own characters, hyphens and digits. -/
theorem mem_encode {t : Text} {c : Char} (h : c ∈ encode t) :
    c ∈ t ∨ c = '-' ∨ ∃ d < 36, c = digitChar d := by
  rcases mem_text_insertCodes h with h | h
  · split at h
    · cases h
    · rcases List.mem_append.1 h with h | h
      · exact .inl ((List.mem_filter.1 h).1)
      · exact .inr (.inl (List.mem_singleton.1 h))
  · exact .inr (.inr h)

end Punycode

namespace Domain

theorem mem_of_asciiLabel? {l t : Text} (h : asciiLabel? l = some t) {c : Char} (hc : c ∈ t) :
    c ∈ l ∨ c ∈ mark ∨ ∃ d < 36, c = Punycode.digitChar d := by
  unfold asciiLabel? at h
  split at h
  · cases h
    exact .inl hc
  · split at h
    · cases h
    · cases h
      rcases List.mem_append.1 hc with hc | hc
      · exact .inr (.inl hc)
      · rcases Punycode.mem_encode hc with hc | rfl | hc
        · exact .inl hc
        · exact .inr (.inl (by decide))
        · exact .inr (.inr hc)

theorem of_mapM_eq_some {f : Text → Option Text} {ls ts : List Text} (h : ls.mapM f = some ts)
    {t : Text} (ht : t ∈ ts) : ∃ l ∈ ls, f l = some t := by
  induction ls generalizing ts with
  | nil =>
    cases h
    cases ht
  | cons l ls ih =>
    simp only [List.mapM_cons, Option.bind_eq_bind, Option.bind_eq_some_iff, Option.pure_def,
      Option.some.injEq] at h
    obtain ⟨x, hx, xs, hxs, rfl⟩ := h
    rcases List.mem_cons.1 ht with rfl | ht
    · exact ⟨l, by simp, hx⟩
    · obtain ⟨m, hm, h⟩ := ih hxs ht
      exact ⟨m, List.mem_cons_of_mem l hm, h⟩

theorem isForbidden_of_isSettled {c : Char} (h : isSettled c = true) : isForbidden c = false := by
  have every : ∀ n < 0x80, isSettled (Char.ofNat n) = true → isForbidden (Char.ofNat n) = false := by
    decide
  have hlt : c.toNat < 0x80 := by
    simp only [isSettled, Bool.or_eq_true, Bool.and_eq_true, decide_eq_true_eq, beq_iff_eq] at h
    rcases h with ⟨-, hz⟩ | rfl
    · exact Nat.lt_of_le_of_lt (UInt32.le_iff_toNat_le.1 (Char.le_def.1 hz)) (by decide)
    · decide
  simpa [h] using every c.toNat hlt

theorem isForbidden_of_lookedUp? {t name : Text} (h : lookedUp? t = some name) {c : Char}
    (hc : c ∈ name) : isForbidden c = false := by
  simp only [lookedUp?, Option.bind_eq_bind, Option.bind_eq_some_iff] at h
  obtain ⟨mapped, -, h⟩ := h
  split at h
  · cases h
  · rename_i hplain
    obtain ⟨full, -, h⟩ := Option.bind_eq_some_iff.1 h
    split at h
    · cases h
    · obtain ⟨parts, hparts, h⟩ := Option.bind_eq_some_iff.1 h
      cases h
      rcases Text.of_mem_intercalate hc with hc | ⟨part, hpart, hc⟩
      · rw [List.mem_singleton.1 hc]
        decide
      · obtain ⟨label, hlabel, hl⟩ := of_mapM_eq_some hparts hpart
        rcases mem_of_asciiLabel? hl hc with hc | hc | ⟨d, hd, rfl⟩
        · rw [List.splitOn_eq_splitOnP] at hlabel
          have hmem := (Text.of_mem_splitOnP hlabel hc).2
          simpa using fun hf => hplain (List.any_eq_true.2 ⟨c, hmem, hf⟩)
        · have every : ∀ d ∈ mark, isForbidden d = false := Text.of_all (by decide)
          exact every c hc
        · have every : ∀ d < 36, isForbidden (Punycode.digitChar d) = false := by decide
          exact every d hd

/-- A domain in ASCII holds no character that no domain may hold. -/
theorem isForbidden_of_toAscii? {t name : Text} (h : toAscii? t = some name) {c : Char}
    (hc : c ∈ name) : isForbidden c = false := by
  unfold toAscii? at h
  split at h
  · rename_i hall
    cases h
    exact isForbidden_of_isSettled (List.all_eq_true.1 hall c hc)
  · exact isForbidden_of_lookedUp? h hc

end Domain

/-! ## Addresses -/

theorem Text.isDigit_of_mem_ofNat {n : Nat} {c : Char} (h : c ∈ Text.ofNat n) :
    c ∈ "0123456789".toList := by
  have hdigits : Text.ofNat n = Nat.toDigits 10 n := by simp [Text.ofNat, Nat.repr]
  have every : ∀ d < 10, Nat.digitChar d ∈ "0123456789".toList := by decide
  rw [hdigits] at h
  induction n using Nat.strongRecOn with
  | ind n ih =>
    by_cases hn : n < 10
    · rw [Nat.toDigits_of_lt_base hn, List.mem_singleton] at h
      exact h ▸ every n hn
    · rw [Nat.toDigits_of_base_le (by omega) (by omega), List.mem_append,
        List.mem_singleton] at h
      rcases h with h | rfl
      · exact ih (n / 10) (by omega) h (by simp [Text.ofNat, Nat.repr])
      · exact every _ (Nat.mod_lt n (by decide))

theorem Ipv4.mem_text {a : UInt32} {c : Char} (h : c ∈ Ipv4.text a) :
    c ∈ "0123456789.".toList := by
  rcases Text.of_mem_intercalate h with h | ⟨u, hu, hc⟩
  · rw [List.mem_singleton.1 h]
    decide
  · obtain ⟨shift, -, rfl⟩ := List.mem_map.1 hu
    have every : ∀ d ∈ "0123456789".toList, d ∈ "0123456789.".toList := Text.of_all (by decide)
    exact every c (Text.isDigit_of_mem_ofNat hc)

theorem Ipv6.mem_colons {pieces : List Nat} {c : Char} (h : c ∈ Ipv6.colons pieces) :
    c ∈ "0123456789abcdef:".toList := by
  rcases Text.of_mem_intercalate h with h | ⟨u, hu, hc⟩
  · rw [List.mem_singleton.1 h]
    decide
  · obtain ⟨n, -, rfl⟩ := List.mem_map.1 hu
    obtain ⟨d, hd, rfl⟩ := Hex.exists_digitChar_of_mem_ofNat hc
    have every : ∀ d < 16, Nat.digitChar d ∈ "0123456789abcdef:".toList := by decide
    exact every d hd

theorem Ipv6.mem_text {pieces : List Nat} {c : Char} (h : c ∈ Ipv6.text pieces) :
    c ∈ "0123456789abcdef:".toList := by
  simp only [Ipv6.text] at h
  split at h
  · exact mem_colons h
  · rw [List.mem_append, List.mem_append] at h
    rcases h with (h | h) | h
    · exact mem_colons h
    · have every : ∀ d ∈ "::".toList, d ∈ "0123456789abcdef:".toList := Text.of_all (by decide)
      exact every c h
    · exact mem_colons h

/-! ## Hosts -/

namespace Host

/-- A name holds no character that no host may hold. -/
def IsPlain (h : Host) : Prop := ∀ name, h = .domain name → ∀ c ∈ name, isForbidden c = false

theorem parseBracketed_ne_domain {t name : Text} : parseBracketed t ≠ .ok (.domain name) := by
  unfold parseBracketed
  split
  · cases hi : Ipv6.parse t.dropLast with
    | error e => exact fun h => by cases h
    | ok pieces => exact fun h => by cases h
  · exact fun h => by cases h

/-- A name under a special scheme is a domain in ASCII. -/
theorem toAscii?_of_parse {t name : Text} (hp : parse t = .ok (.domain name)) :
    ∃ plain, Domain.toAscii? plain = some name := by
  unfold parse at hp
  split at hp
  · exact absurd hp parseBracketed_ne_domain
  · simp only [pure, Except.pure, throw, throwThe, MonadExceptOf.throw] at hp
    split at hp
    · rename_i plain _
      split at hp
      · rename_i ascii hascii
        split at hp
        · cases hp
        · split at hp
          · cases hi : Ipv4.parse ascii with
            | error e => rw [hi] at hp; cases hp
            | ok address => rw [hi] at hp; cases hp
          · cases hp
            exact ⟨plain, hascii⟩
      · cases hp
    · cases hp

/-- A name under any other scheme is encoded as it stands. -/
theorem eq_encode_of_parsePlain {t name : Text} (hp : parsePlain t = .ok (.domain name)) :
    name = Percent.encode Percent.controlSet t ∧ ∀ c ∈ t, isForbidden c = false := by
  unfold parsePlain at hp
  split at hp
  · exact absurd hp parseBracketed_ne_domain
  · split at hp
    · cases hp
    · rename_i hchars
      cases hp
      refine ⟨rfl, fun c hc => ?_⟩
      simpa using fun hf => hchars (List.any_eq_true.2 ⟨c, hc, hf⟩)

/-- What no domain may hold includes what no host may hold. -/
theorem isForbidden_of_domain {c : Char} (h : Domain.isForbidden c = false) :
    isForbidden c = false := by
  have every : ∀ d ∈ ['\x00', '\t', '\n', '\r', ' ', '#', '/', ':', '<', '>', '?', '@', '[', '\\',
      ']', '^', '|'], Domain.isForbidden d = true := Text.of_all (by decide)
  rw [Bool.eq_false_iff, isForbidden, List.contains_eq_mem, ne_eq, decide_eq_true_eq]
  exact fun hm => by simp [every c hm] at h

theorem isPlain_of_parse {t : Text} {h : Host} (hp : parse t = .ok h) : h.IsPlain := by
  rintro name rfl c hc
  obtain ⟨plain, hplain⟩ := toAscii?_of_parse hp
  exact isForbidden_of_domain (Domain.isForbidden_of_toAscii? hplain hc)

theorem isPlain_of_parsePlain {t : Text} {h : Host} (hp : parsePlain t = .ok h) : h.IsPlain := by
  rintro name rfl c hc
  obtain ⟨rfl, hchars⟩ := eq_encode_of_parsePlain hp
  rcases Percent.mem_encode hc with hc | hc
  · exact hchars c hc.1
  · have every : ∀ d ∈ Percent.codeChars, isForbidden d = false := Text.of_all (by decide)
    exact every c hc

/-- A host is written without forbidden characters, or as digits and colons in brackets. -/
theorem text_cases {h : Host} (hp : h.IsPlain) : (∀ c ∈ h.text, isForbidden c = false) ∨
    ∃ inner, h.text = '[' :: (inner ++ [']']) ∧ ∀ c ∈ inner, c ∈ "0123456789abcdef:".toList := by
  cases h with
  | domain name => exact .inl (hp name rfl)
  | ipv4 address =>
    have every : ∀ d ∈ "0123456789.".toList, isForbidden d = false := Text.of_all (by decide)
    exact .inl fun c hc => every c (Ipv4.mem_text hc)
  | ipv6 pieces => exact .inr ⟨Ipv6.text pieces, rfl, fun c hc => Ipv6.mem_text hc⟩

end Host

end CredentialGateway
