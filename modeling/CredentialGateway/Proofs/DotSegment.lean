import CredentialGateway.Path.DotSegment
import CredentialGateway.Proofs.Encoding
import CredentialGateway.Url.Path

/-!
# Spellings of dots

A segment spells dots if it is a run of them, each plain or percent-encoded.  Both tests for dot
segments are read off the number of dots: the one on the request, which decodes the segment and
compares, and the one of the URL, which knows six spellings.  Encoding a segment spells no new dots.

    Path.isDotSegment s ↔ s spells one dot or two              (isDotSegment_iff)
    UrlPath.meaning s = .here ↔ s spells one dot               (meaning_eq_here_iff)
    UrlPath.meaning s = .up ↔ s spells two dots                (meaning_eq_up_iff)
-/

namespace CredentialGateway

open Percent

/-- The text spells `n` dots, each plain or percent-encoded. -/
inductive Dots : Nat → Text → Prop
  | nil : Dots 0 []
  | plain {n : Nat} {t : Text} : Dots n t → Dots (n + 1) ('.' :: t)
  | coded {n : Nat} {t : Text} {e : Char} : e = 'e' ∨ e = 'E' → Dots n t →
      Dots (n + 1) ('%' :: '2' :: e :: t)

/-- What dots are spelled with. -/
def dotChars : Text := ".%2eE"

/-! ## Letters in lower case -/

theorem toNat_toLower (c : Char) :
    c.toLower.toNat = if 65 ≤ c.toNat ∧ c.toNat ≤ 90 then c.toNat + 32 else c.toNat := by
  unfold Char.toLower
  split
  · rename_i h
    have h1 : 65 ≤ c.toNat := UInt32.le_iff_toNat_le.1 h.1
    have h2 : c.toNat ≤ 90 := UInt32.le_iff_toNat_le.1 h.2
    rw [if_pos ⟨h1, h2⟩]
    show (c.val + ('a'.val - 'A'.val)).toNat = c.val.toNat + 32
    have : c.val.toNat ≤ 90 := h2
    rw [UInt32.toNat_add, show ('a'.val - 'A'.val).toNat = 32 from rfl]
    omega
  · rename_i h
    rw [if_neg]
    rintro ⟨h1, h2⟩
    exact h ⟨UInt32.le_iff_toNat_le.2 h1, UInt32.le_iff_toNat_le.2 h2⟩

theorem toLower_eq_e_iff {c : Char} : c.toLower = 'e' ↔ c = 'e' ∨ c = 'E' := by
  have h := toNat_toLower c
  simp only [← Char.toNat_inj]
  simp only [show 'e'.toNat = 101 from rfl, show 'E'.toNat = 69 from rfl]
  split at h <;> omega

/-- Below the letters nothing changes. -/
theorem toLower_eq_iff {c d : Char} (hd : d.toNat < 65) : c.toLower = d ↔ c = d := by
  have h := toNat_toLower c
  simp only [← Char.toNat_inj]
  split at h <;> omega

/-! ## The test on the request -/

theorem lower_cons (c : Char) (t : Text) : Text.lower (c :: t) = c.toLower :: Text.lower t := rfl

/-- Decoded, a text is a run of dots exactly if it spells as many. -/
theorem dots_iff_replaceAll {n : Nat} {s : Text} :
    Dots n s ↔ Text.replaceAll "%2e" "." s.lower = List.replicate n '.' := by
  constructor
  · intro h
    induction h with
    | nil => simp [Text.lower, Text.replaceAll]
    | plain _ ih =>
      rw [lower_cons, Text.replaceAll, if_neg (by simp), if_neg (by simp [List.isPrefixOf])]
      simpa [List.replicate_succ] using ih
    | @coded n t e he _ ih =>
      have hl : Text.lower ('%' :: '2' :: e :: t) = "%2e".toList ++ Text.lower t := by
        rw [lower_cons, lower_cons, lower_cons, toLower_eq_e_iff.2 he]
        rfl
      rw [hl, Text.replaceAll_append (by simp), ih]
      rfl
  · intro h
    induction n generalizing s with
    | zero =>
      cases s with
      | nil => exact .nil
      | cons c s =>
        rw [lower_cons, Text.replaceAll, if_neg (by simp)] at h
        split at h <;> simp at h
    | succ n ih =>
      cases s with
      | nil => simp [Text.lower, Text.replaceAll] at h
      | cons c s =>
        rw [lower_cons, Text.replaceAll, if_neg (by simp), List.replicate_succ] at h
        split at h
        · rename_i hp
          obtain ⟨t, ht⟩ : ['%', '2', 'e'] <+: c.toLower :: Text.lower s :=
            List.isPrefixOf_iff_prefix.1 hp
          rcases s with _ | ⟨d, _ | ⟨e, s⟩⟩
          · simp [Text.lower] at ht
          · simp [Text.lower] at ht
          · simp only [lower_cons, List.cons_append, List.nil_append, List.cons.injEq] at ht
            obtain ⟨hc, hd, he, -⟩ := ht
            obtain rfl := (toLower_eq_iff (by decide)).1 hc.symm
            obtain rfl := (toLower_eq_iff (by decide)).1 hd.symm
            have h : '.' :: Text.replaceAll "%2e" "." (Text.lower s) =
                '.' :: List.replicate n '.' := h
            exact .coded (toLower_eq_e_iff.1 he.symm) (ih (List.cons.inj h).2)
        · obtain ⟨hc, ht⟩ := List.cons.inj h
          obtain rfl := (toLower_eq_iff (by decide)).1 hc
          exact .plain (ih ht)

theorem isDotSegment_iff {s : Text} :
    Path.isDotSegment s = true ↔ Dots 1 s ∨ Dots 2 s := by
  simp only [Path.isDotSegment, Bool.or_eq_true, beq_iff_eq, dots_iff_replaceAll]
  rfl

/-! ## The test of the URL -/

theorem meaning_eq_here_iff {s : Text} : UrlPath.meaning s = .here ↔ Dots 1 s := by
  constructor
  · intro h
    simp only [UrlPath.meaning] at h
    split at h
    · rename_i hs
      simp only [Bool.or_eq_true, decide_eq_true_eq] at hs
      rw [dots_iff_replaceAll]
      rcases hs with hs | hs <;> rw [hs] <;> cbv
    · split at h <;> cases h
  · rintro (_ | ⟨h⟩ | ⟨he, h⟩)
    · cases h; rfl
    · cases h; rcases he with rfl | rfl <;> rfl

theorem meaning_eq_up_iff {s : Text} : UrlPath.meaning s = .up ↔ Dots 2 s := by
  constructor
  · intro h
    simp only [UrlPath.meaning] at h
    split at h
    · cases h
    · split at h
      · rename_i hs
        simp only [Bool.or_eq_true, decide_eq_true_eq] at hs
        rw [dots_iff_replaceAll]
        rcases hs with ((hs | hs) | hs) | hs <;> rw [hs] <;> cbv
      · cases h
  · rintro (_ | ⟨_ | ⟨h⟩ | ⟨he, h⟩⟩ | ⟨he, _ | ⟨h⟩ | ⟨he', h⟩⟩)
    · cases h; rfl
    · cases h; rcases he with rfl | rfl <;> rfl
    · cases h; rcases he with rfl | rfl <;> rfl
    · cases h; rcases he with rfl | rfl <;> rcases he' with rfl | rfl <;> rfl

theorem meaning_eq_plain_iff {s : Text} :
    UrlPath.meaning s = .plain ↔ ¬ (Dots 1 s ∨ Dots 2 s) := by
  rw [← meaning_eq_here_iff, ← meaning_eq_up_iff]
  cases UrlPath.meaning s <;> simp

/-- A run of dots starts with a dot or a percent sign. -/
theorem meaning_cons_of_ne {c : Char} (hdot : c ≠ '.') (hpercent : c ≠ '%') (t : Text) :
    UrlPath.meaning (c :: t) = .plain := by
  rw [meaning_eq_plain_iff]
  rintro (h | h)
  all_goals cases h
  all_goals simp at hdot hpercent

/-- The request is tested for what the URL would carry out. -/
theorem isDotSegment_eq_false_iff {s : Text} :
    Path.isDotSegment s = false ↔ UrlPath.meaning s = .plain := by
  rw [meaning_eq_plain_iff, ← isDotSegment_iff, Bool.not_eq_true]

theorem hasDotSegment_eq_false_iff {path : Text} :
    Path.hasDotSegment path = false ↔ ∀ s ∈ Path.segments path, UrlPath.meaning s = .plain := by
  simp [Path.hasDotSegment, ← isDotSegment_eq_false_iff]

/-! ## One more dot -/

theorem dots_append_dot {n : Nat} {s : Text} (h : Dots n s) : Dots (n + 1) (s ++ ['.']) := by
  induction h with
  | nil => exact .plain .nil
  | plain _ ih => exact .plain ih
  | coded he _ ih => exact .coded he ih

theorem dots_of_append_dot {n : Nat} {s : Text} (h : Dots n (s ++ ['.'])) :
    ∃ m, n = m + 1 ∧ Dots m s := by
  generalize hw : s ++ ['.'] = w at h
  induction h generalizing s with
  | nil => simp at hw
  | plain ht ih =>
    cases s with
    | nil =>
      cases hw
      cases ht
      exact ⟨0, rfl, .nil⟩
    | cons c s =>
      cases hw
      obtain ⟨m, rfl, hm⟩ := ih rfl
      exact ⟨m + 1, rfl, .plain hm⟩
  | coded he _ ih =>
    rcases s with _ | ⟨a, _ | ⟨b, _ | ⟨c, s⟩⟩⟩
    · cases hw
    · cases hw
    · cases hw
      exact absurd he (by decide)
    · cases hw
      obtain ⟨m, rfl, hm⟩ := ih rfl
      exact ⟨m + 1, rfl, .coded he hm⟩

/-- What spells one dot is one more dot away from a step up. -/
theorem meaning_append_dot_of_here {s : Text} (h : UrlPath.meaning s = .here) :
    UrlPath.meaning (s ++ ['.']) = .up :=
  meaning_eq_up_iff.2 (dots_append_dot (meaning_eq_here_iff.1 h))

theorem meaning_append_dot_of_plain {s : Text} (h : UrlPath.meaning s = .plain) (hne : s ≠ []) :
    UrlPath.meaning (s ++ ['.']) = .plain := by
  rw [meaning_eq_plain_iff] at h ⊢
  rintro (hd | hd)
  · obtain ⟨m, hm, hs⟩ := dots_of_append_dot hd
    obtain rfl : m = 0 := by omega
    cases hs
    exact hne rfl
  · obtain ⟨m, hm, hs⟩ := dots_of_append_dot hd
    obtain rfl : m = 1 := by omega
    exact h (.inl hs)

/-! ## Encoding -/

theorem mem_of_dots {n : Nat} {s : Text} (h : Dots n s) {c : Char} (hc : c ∈ s) :
    c ∈ dotChars := by
  induction h with
  | nil => cases hc
  | plain _ ih =>
    rcases List.mem_cons.1 hc with rfl | hc
    · decide
    · exact ih hc
  | coded he _ ih =>
    simp only [List.mem_cons] at hc
    rcases hc with rfl | rfl | rfl | hc
    · decide
    · decide
    · rcases he with rfl | rfl <;> decide
    · exact ih hc

/-- A part of a dot segment names no drive. -/
theorem isDrive_of_forall {s : Text} (h : ∀ c ∈ s, c ∈ dotChars) :
    UrlPath.isDrive s = false := by
  have every : ∀ d ∈ dotChars, (d == ':' || d == '|') = false := Text.of_all (by decide)
  unfold UrlPath.isDrive
  split
  · rename_i letter mark
    rw [every mark (h mark (by simp)), Bool.and_false]
  · rfl

/-- Only the full stop is written `%2E`. -/
theorem eq_of_ofByte_eq {b : UInt8} {e : Char} (h : Hex.ofByte b = ['2', e])
    (he : e = 'e' ∨ e = 'E') : b = 0x2E := by
  have every : ∀ n < 256, Hex.ofByte (UInt8.ofNat n) ≠ ['2', 'e'] ∧
      (Hex.ofByte (UInt8.ofNat n) = ['2', 'E'] → n = 0x2E) := by decide +kernel
  have hb := every b.toNat b.toNat_lt
  rw [UInt8.ofNat_toNat] at hb
  rcases he with rfl | rfl
  · exact absurd h hb.1
  · exact Bytes.eq_ofNat (hb.2 h)

theorem eq_dot_of_utf8EncodeChar {c : Char} {rest : Bytes}
    (h : String.utf8EncodeChar c = 0x2E :: rest) : c = '.' := by
  have first {n : Nat} {bs : Bytes} (hn : n < 256) (h : UInt8.ofNat n :: bs = 0x2E :: rest) :
      n = 0x2E := by
    rw [← Bytes.toNat_ofNat hn, (List.cons.inj h).1]
    rfl
  rw [Bytes.utf8EncodeChar_eq] at h
  split at h
  · exact Char.toNat_inj.1 (first (by omega) h)
  · split at h
    · have := first (by omega) h
      omega
    · split at h
      · have := first (by omega) h
        omega
      · have := first (by omega) h
        omega

/-- Encoding spells no new dots. -/
theorem dots_of_encode {n : Nat} {s : Text} (h : Dots n (Percent.encode Percent.pathSet s)) :
    Dots n s := by
  generalize hs : Percent.encode Percent.pathSet s = w at h
  induction h generalizing s with
  | nil =>
    obtain rfl := encode_eq_nil_iff.1 hs
    exact .nil
  | plain _ ih =>
    obtain ⟨r, rfl, hr⟩ := eq_cons_of_encode hs (by decide)
    exact .plain (ih hr)
  | coded he _ ih =>
    cases s with
    | nil => cases hs
    | cons d r =>
      by_cases hd : Percent.pathSet d = true
      · -- the two digits would make the byte a full stop, which is not in the set
        obtain ⟨b, bs, hu, hb⟩ := encodeChar_of_set hd
        rw [encode_cons, hb, Hex.ofByte] at hs
        simp only [List.cons_append, List.nil_append, List.cons.injEq, true_and] at hs
        have hx := eq_of_ofByte_eq (b := b) (by rw [Hex.ofByte, hs.1, hs.2.1]) he
        subst hx
        obtain rfl := eq_dot_of_utf8EncodeChar hu
        exact absurd hd (by decide)
      · rw [encode_cons_of_not_set (by simpa using hd)] at hs
        obtain ⟨rfl, h2⟩ := List.cons.inj hs
        obtain ⟨r, rfl, h3⟩ := eq_cons_of_encode h2 (by decide)
        obtain ⟨r, rfl, h4⟩ := eq_cons_of_encode h3 (by rcases he with rfl | rfl <;> decide)
        exact .coded he (ih h4)

/-- No character of a dot segment is encoded. -/
theorem encode_of_dots {n : Nat} {s : Text} (h : Dots n s) :
    Percent.encode Percent.pathSet s = s := by
  have every : ∀ d ∈ dotChars, Percent.pathSet d = false := Text.of_all (by decide)
  exact Percent.encode_of_forall fun c hc => every c (mem_of_dots h hc)

/-- What is encoded means the same. -/
theorem meaning_encode {s : Text} :
    UrlPath.meaning (Percent.encode Percent.pathSet s) = .plain ↔ UrlPath.meaning s = .plain := by
  rw [meaning_eq_plain_iff, meaning_eq_plain_iff]
  refine not_congr ⟨fun h => h.imp dots_of_encode dots_of_encode, fun h => ?_⟩
  rcases h with h | h
  · exact .inl ((encode_of_dots h).symm ▸ h)
  · exact .inr ((encode_of_dots h).symm ▸ h)

end CredentialGateway
