import CredentialGateway.Percent

/-!
# Encoded text

What is percent-encoded holds no character of its set: a character of the set leaves `%` and digits,
which are in no set, and every other one stands for itself.  So encoding twice is encoding once.  A
set that spares `%` and the digits leaves what is encoded already, and the text stands for the same
bytes as before.

    c ∈ encode set t → c ∈ t and not in the set, or c is `%` or a digit      (mem_encode)
    encode set t = t ↔ no character of t is in the set               (encode_eq_self_iff)
    decode (encode set t) = decode t                                      (decode_encode)
-/

namespace CredentialGateway

/-- What can be checked of each character of a text holds of all of them. -/
theorem Text.of_all {t : Text} {q : Char → Prop} [DecidablePred q]
    (h : t.all (fun c => decide (q c)) = true) : ∀ c ∈ t, q c := fun c hc =>
  of_decide_eq_true (List.all_eq_true.1 h c hc)

namespace Percent

/-! ## Character by character -/

theorem encode_cons (set : Char → Bool) (c : Char) (t : Text) :
    encode set (c :: t) = encodeChar set c ++ encode set t :=
  List.flatMap_cons

/-- A character outside the set stands for itself. -/
theorem encode_cons_of_not_set {set : Char → Bool} {c : Char} (h : set c = false) (t : Text) :
    encode set (c :: t) = c :: encode set t := by
  rw [encode_cons, encodeChar, if_neg (by simp [h])]
  rfl

/-- A character of the set is written byte by byte. -/
theorem encodeChar_of_set {set : Char → Bool} {c : Char} (h : set c = true) :
    ∃ b bs, String.utf8EncodeChar c = b :: bs ∧ encodeChar set c =
      '%' :: (Hex.ofByte b ++ bs.flatMap fun b => '%' :: Hex.ofByte b) := by
  obtain ⟨b, bs, hb⟩ : ∃ b bs, String.utf8EncodeChar c = b :: bs :=
    List.exists_cons_of_ne_nil (String.utf8EncodeChar_ne_nil)
  refine ⟨b, bs, hb, ?_⟩
  rw [encodeChar, if_pos h, hb, List.flatMap_cons]
  rfl

/-- What is written with another character than `%` in front stands for itself there. -/
theorem eq_cons_of_encode {set : Char → Bool} {s : Text} {c : Char} {t : Text}
    (h : encode set s = c :: t) (hc : c ≠ '%') :
    ∃ r, s = c :: r ∧ encode set r = t := by
  cases s with
  | nil => cases h
  | cons d r =>
    by_cases hd : set d = true
    · obtain ⟨b, bs, -, hb⟩ := encodeChar_of_set hd
      rw [encode_cons, hb] at h
      exact absurd (List.cons.inj h).1.symm hc
    · rw [encode_cons_of_not_set (by simpa using hd)] at h
      obtain ⟨rfl, ht⟩ := List.cons.inj h
      exact ⟨r, rfl, ht⟩

theorem encode_eq_nil_iff {set : Char → Bool} {s : Text} : encode set s = [] ↔ s = [] := by
  constructor
  · intro h
    cases s with
    | nil => rfl
    | cons c s =>
      by_cases hc : set c = true
      · obtain ⟨b, bs, -, hb⟩ := encodeChar_of_set hc
        rw [encode_cons, hb] at h
        cases h
      · rw [encode_cons_of_not_set (by simpa using hc)] at h
        cases h
  · rintro rfl
    rfl

/-! ## Characters that are left -/

/-- What an encoded byte is written with. -/
def codeChars : Text := "%0123456789ABCDEF"

theorem mem_codeChars_of_mem_ofByte {b : UInt8} {c : Char} (h : c ∈ Hex.ofByte b) :
    c ∈ codeChars := by
  have every : ∀ d < 16, (Nat.digitChar d).toUpper ∈ codeChars := by decide
  have hb := b.toNat_lt
  simp only [Hex.ofByte, List.mem_cons, List.not_mem_nil, or_false] at h
  rcases h with rfl | rfl
  · exact every _ (by omega)
  · exact every _ (by omega)

theorem mem_encode {set : Char → Bool} {t : Text} {c : Char} (h : c ∈ encode set t) :
    c ∈ t ∧ set c = false ∨ c ∈ codeChars := by
  obtain ⟨d, hd, hc⟩ := List.mem_flatMap.1 h
  rw [encodeChar] at hc
  split at hc
  · right
    obtain ⟨b, -, hb⟩ := List.mem_flatMap.1 hc
    rcases List.mem_cons.1 hb with rfl | hb
    · decide
    · exact mem_codeChars_of_mem_ofByte hb
  · rename_i hs
    obtain rfl := List.mem_singleton.1 hc
    exact .inl ⟨hd, by simpa using hs⟩

/-- A set without the characters of the code has no character of what is encoded. -/
theorem set_of_mem_encode {set : Char → Bool} (hset : ∀ d ∈ codeChars, set d = false) {t : Text}
    {c : Char} (h : c ∈ encode set t) : set c = false := by
  rcases mem_encode h with h | h
  · exact h.2
  · exact hset c h

theorem pathSet_of_mem_encode {t : Text} {c : Char} (h : c ∈ encode pathSet t) :
    pathSet c = false := set_of_mem_encode (Text.of_all (by decide)) h

/-! ## What is left as it is -/

/-- Encoding takes nothing away. -/
theorem length_le_length_encode (set : Char → Bool) (t : Text) :
    t.length ≤ (encode set t).length := by
  induction t with
  | nil => exact Nat.le_refl _
  | cons c t ih =>
    rw [encode_cons, List.length_append, List.length_cons]
    by_cases hc : set c = true
    · obtain ⟨b, bs, -, hb⟩ := encodeChar_of_set hc
      rw [hb, List.length_cons]
      omega
    · rw [encodeChar, if_neg hc, List.length_singleton]
      omega

/-- A text is left as it is exactly if no character of it is in the set. -/
theorem encode_eq_self_iff {set : Char → Bool} {t : Text} :
    encode set t = t ↔ ∀ c ∈ t, set c = false := by
  refine ⟨fun h => ?_, encode_of_forall⟩
  induction t with
  | nil => simp
  | cons c t ih =>
    by_cases hc : set c = true
    · -- one character would have become three, and the others no less than they are
      exfalso
      obtain ⟨b, bs, -, hb⟩ := encodeChar_of_set hc
      have hlen := congrArg List.length h
      have hrest := length_le_length_encode set t
      have hdigits : (Hex.ofByte b).length = 2 := rfl
      rw [encode_cons, hb, List.length_append, List.length_cons, List.length_append, hdigits,
        List.length_cons] at hlen
      omega
    · rw [Bool.not_eq_true] at hc
      rw [encode_cons_of_not_set hc] at h
      exact List.forall_mem_cons.2 ⟨hc, ih (List.cons.inj h).2⟩

theorem encode_congr {set set' : Char → Bool} {t : Text} (h : ∀ c ∈ t, set c = set' c) :
    encode set t = encode set' t := by
  have hchars : t.map (encodeChar set) = t.map (encodeChar set') :=
    List.map_congr_left fun c hc => by rw [encodeChar, encodeChar, h c hc]
  rw [encode, encode, List.flatMap_def, List.flatMap_def, hchars]

/-! ## What a text stands for -/

/-- Two digits in front, which a percent sign before them makes one byte. -/
def startsCode : Text → Bool
  | a :: b :: _ => (Hex.digit? a).isSome && (Hex.digit? b).isSome
  | _ => false

theorem decode_cons_of_ne {c : Char} (h : c ≠ '%') (t : Text) :
    decode (c :: t) = String.utf8EncodeChar c ++ decode t := by
  rw [decode]
  rintro a b rest rfl -
  exact h rfl

/-- A percent sign stands for itself before anything but two digits. -/
theorem decode_percent {t : Text} (h : startsCode t = false) :
    decode ('%' :: t) = 0x25 :: decode t := by
  match t with
  | [] => rfl
  | [_] => rfl
  | a :: b :: rest =>
    rw [decode]
    split
    · rename_i x y ha hb
      rw [startsCode, ha, hb] at h
      cases h
    · rfl

theorem decode_ofByte (b : UInt8) (t : Text) :
    decode ('%' :: (Hex.ofByte b ++ t)) = b :: decode t := by
  have hb := b.toNat_lt
  have hbyte : UInt8.ofNat (16 * (b.toNat / 16) + b.toNat % 16) = b := by
    rw [Nat.div_add_mod, UInt8.ofNat_toNat]
  simp only [Hex.ofByte, List.cons_append, List.nil_append, decode,
    Hex.digit?_toUpper_digitChar (b.toNat / 16) (by omega),
    Hex.digit?_toUpper_digitChar (b.toNat % 16) (by omega), hbyte]

/-- Encoded bytes stand for themselves. -/
theorem decode_bytes (bs : Bytes) (t : Text) :
    decode ((bs.flatMap fun b => '%' :: Hex.ofByte b) ++ t) = bs ++ decode t := by
  induction bs with
  | nil => rfl
  | cons b bs ih =>
    rw [List.flatMap_cons, List.append_assoc, List.cons_append, decode_ofByte, ih, List.cons_append]

section

variable {set : Char → Bool} (hdigits : ∀ c, set c = true → Hex.digit? c = none)
include hdigits

/-- Digits stay where they are, and no others come. -/
theorem startsCode_encode (t : Text) : startsCode (encode set t) = startsCode t := by
  match t with
  | [] => rfl
  | [a] =>
    by_cases ha : set a = true
    · obtain ⟨b, bs, -, hb⟩ := encodeChar_of_set ha
      rw [encode_cons, hb]
      rfl
    · rw [encode_cons_of_not_set (by simpa using ha)]
      rfl
  | a :: b :: rest =>
    by_cases ha : set a = true
    · obtain ⟨x, bs, -, hx⟩ := encodeChar_of_set ha
      rw [encode_cons, hx, startsCode, hdigits a ha]
      rfl
    · rw [encode_cons_of_not_set (by simpa using ha)]
      by_cases hb : set b = true
      · obtain ⟨x, bs, -, hx⟩ := encodeChar_of_set hb
        rw [encode_cons, hx, List.cons_append, startsCode, startsCode, hdigits b hb]
        rfl
      · rw [encode_cons_of_not_set (by simpa using hb)]
        rfl

/-- Encoding changes nothing in what a text stands for, if the set spares `%` too. -/
theorem decode_encode (hpercent : set '%' = false) (t : Text) :
    decode (encode set t) = decode t := by
  -- a percent sign that stands for itself still does
  have percent {rest : Text} (hcode : startsCode rest = false)
      (ih : decode (encode set rest) = decode rest) :
      decode (encode set ('%' :: rest)) = decode ('%' :: rest) := by
    rw [encode_cons_of_not_set hpercent, decode_percent hcode, decode_percent, ih]
    rw [startsCode_encode hdigits, hcode]
  induction t using decode.induct with
  | case1 => rfl
  | case2 a b rest x y hb ha ih =>
    have outside {c : Char} {n : Nat} (h : Hex.digit? c = some n) : set c = false := by
      rw [Bool.eq_false_iff]
      intro hc
      rw [hdigits c hc] at h
      cases h
    rw [encode_cons_of_not_set hpercent, encode_cons_of_not_set (outside ha),
      encode_cons_of_not_set (outside hb)]
    simp only [decode, ha, hb, ih]
  | case3 a b rest hnot ih =>
    refine percent (Bool.eq_false_iff.2 fun hcode => ?_) ih
    simp only [startsCode, Bool.and_eq_true, Option.isSome_iff_exists] at hcode
    obtain ⟨⟨x, hx⟩, y, hy⟩ := hcode
    exact hnot x y hx hy
  | case4 c rest hnot ih =>
    by_cases hc : c = '%'
    · subst hc
      refine percent ?_ ih
      match rest with
      | [] => rfl
      | [_] => rfl
      | a :: b :: rest => exact absurd rfl (hnot a b rest rfl)
    · rw [decode_cons_of_ne hc, encode_cons, encodeChar]
      split
      · rw [decode_bytes, ih]
      · rw [List.singleton_append, decode_cons_of_ne hc, ih]

end

end Percent

end CredentialGateway
