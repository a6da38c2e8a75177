import CredentialGateway.Proofs.HopFilter

/-!
# Names that Connection lists

A peer lists the headers of its hop between commas, blanks around each, and it does so in bytes.
Where all bytes of the value are ASCII these are the names that it nominates, whatever stands beside
them.  One byte beyond ASCII, anywhere in the value, and the value nominates nothing: a name in it
then stays, unless it never crosses a hop or another value nominates it.

    v nominates n ↔ v is ASCII and lists n                                   (nominates_iff)
    a listed name stays ↔ it is there, may cross, and is in no ASCII value   (contains_of_lists_iff)
-/

namespace CredentialGateway

/-! ## Listed names -/

namespace HeaderValue

/-- The name stands in the value between commas, with blanks around it. -/
def Lists (v : HeaderValue) (n : HeaderName) : Prop :=
  ∃ before lead name trail after : Bytes, v.bytes = before ++ (lead ++ name ++ trail) ++ after ∧
    (before = [] ∨ before.getLast? = some 0x2C) ∧ (after = [] ∨ after.head? = some 0x2C) ∧
    (∀ b ∈ lead ++ trail, b = 0x20 ∨ b = 0x09) ∧ HeaderName.ofBytes? name = some n

/-- No byte of the value is beyond ASCII. -/
def IsAscii (v : HeaderValue) : Prop := ∀ b ∈ v.bytes, b < 0x80

/-- A header value holds no controls but TAB, so text is what is ASCII. -/
theorem isTextByte_iff {b : UInt8} (h : isFieldByte b = true) :
    (b == 0x09 || (0x20 ≤ b && b < 0x7F)) = true ↔ b < 0x80 := by
  simp only [isFieldByte, Bool.or_eq_true, Bool.and_eq_true, decide_eq_true_eq, beq_iff_eq,
    bne_iff_ne, ne_eq, UInt8.le_iff_toNat_le, UInt8.lt_iff_toNat_lt, ← UInt8.toNat_inj,
    UInt8.reduceToNat] at h ⊢
  omega

theorem text?_eq_some_iff {v : HeaderValue} {t : Text} :
    v.text? = some t ↔ v.IsAscii ∧ Bytes.asciiText v.bytes = t := by
  have hall : (v.bytes.all fun b => b == 0x09 || (0x20 ≤ b && b < 0x7F)) = true ↔ v.IsAscii := by
    rw [List.all_eq_true]
    exact forall₂_congr fun b hb => isTextByte_iff (List.all_eq_true.1 v.valid b hb)
  unfold text?
  split
  · rename_i h
    simp [hall.1 h]
  · rename_i h
    simp [mt hall.2 h]

end HeaderValue

/-! ## Bytes and their text -/

namespace Bytes

/-- Each byte has a character of its own. -/
theorem asciiChar_inj {a b : UInt8} : Char.ofNat a.toNat = Char.ofNat b.toNat ↔ a = b := by
  have hchar (c : UInt8) : (Char.ofNat c.toNat).toNat = c.toNat := by
    have := c.toNat_lt
    rw [Char.ofNat, dif_pos (by simp only [Nat.isValidChar]; omega)]
    rfl
  rw [← Char.toNat_inj, hchar, hchar, UInt8.toNat_inj]

theorem head?_asciiText_eq_comma {bs : Bytes} :
    (asciiText bs).head? = some ',' ↔ bs.head? = some 0x2C := by
  cases bs with
  | nil => simp [asciiText]
  | cons b bs => simpa [asciiText] using asciiChar_inj (a := b) (b := 0x2C)

theorem getLast?_asciiText_eq_comma {bs : Bytes} :
    (asciiText bs).getLast? = some ',' ↔ bs.getLast? = some 0x2C := by
  rw [← List.head?_reverse, ← List.head?_reverse, ← head?_asciiText_eq_comma, asciiText, asciiText,
    List.map_reverse]

theorem asciiText_eq_nil {bs : Bytes} : asciiText bs = [] ↔ bs = [] := List.map_eq_nil_iff

theorem blank_asciiText {bs : Bytes} :
    (∀ c ∈ asciiText bs, c = ' ' ∨ c = '\t') ↔ ∀ b ∈ bs, b = 0x20 ∨ b = 0x09 := by
  rw [asciiText, List.forall_mem_map]
  exact forall₂_congr fun b _ =>
    or_congr (asciiChar_inj (b := 0x20)) (asciiChar_inj (b := 0x09))

end Bytes

/-! ## What is nominated -/

/-- A value nominates the names that it lists, if it is text. -/
theorem HeaderValue.nominates_iff {v : HeaderValue} {n : HeaderName} :
    v.Nominates n ↔ v.IsAscii ∧ v.Lists n := by
  constructor
  · rintro ⟨t, ht, before, lead, name, trail, after, htext, hb, ha, hblank, hn⟩
    obtain ⟨hascii, rfl⟩ := text?_eq_some_iff.1 ht
    refine ⟨hascii, ?_⟩
    -- the bytes fall into the same parts as the text
    obtain ⟨front, after, hbytes, hfront, rfl⟩ := List.map_eq_append_iff.1 htext
    obtain ⟨before, middle, rfl, rfl, hmiddle⟩ := List.map_eq_append_iff.1 hfront
    obtain ⟨leadName, trail, rfl, hleadName, rfl⟩ := List.map_eq_append_iff.1 hmiddle
    obtain ⟨lead, name, rfl, rfl, rfl⟩ := List.map_eq_append_iff.1 hleadName
    refine ⟨before, lead, name, trail, after, hbytes, ?_, ?_, ?_,
      HeaderName.ofText?_eq_some_iff.2 hn⟩
    · exact hb.imp Bytes.asciiText_eq_nil.1 Bytes.getLast?_asciiText_eq_comma.1
    · exact ha.imp Bytes.asciiText_eq_nil.1 Bytes.head?_asciiText_eq_comma.1
    · rw [← List.map_append] at hblank
      exact Bytes.blank_asciiText.1 hblank
  · rintro ⟨hascii, before, lead, name, trail, after, hbytes, hb, ha, hblank, hn⟩
    refine ⟨_, text?_eq_some_iff.2 ⟨hascii, rfl⟩, Bytes.asciiText before, Bytes.asciiText lead,
      Bytes.asciiText name, Bytes.asciiText trail, Bytes.asciiText after, ?_, ?_, ?_, ?_,
      HeaderName.ofText?_eq_some_iff.1 hn⟩
    · rw [hbytes]
      simp only [Bytes.asciiText, List.map_append]
    · exact hb.imp Bytes.asciiText_eq_nil.2 Bytes.getLast?_asciiText_eq_comma.2
    · exact ha.imp Bytes.asciiText_eq_nil.2 Bytes.head?_asciiText_eq_comma.2
    · rw [Bytes.asciiText, Bytes.asciiText, ← List.map_append]
      exact Bytes.blank_asciiText.2 hblank

/-! ## What is lost -/

namespace Headers

/-- No header is left that a value of `Connection` lists. -/
def LosesListed (h : Headers) : Prop :=
  ∀ v ∈ values .connection h, ∀ n, v.Lists n → contains n (withoutHopByHop h) = false

/-- A listed name stays only if no value that lists it is ASCII. -/
theorem contains_of_lists_iff {h : Headers} {n : HeaderName} :
    contains n (withoutHopByHop h) = true ↔ contains n h = true ∧ n ∉ always ∧
      ∀ v ∈ values .connection h, v.Lists n → ¬ v.IsAscii := by
  rw [contains_withoutHopByHop_iff, Crosses]
  simp only [HeaderValue.nominates_iff, not_exists, not_and]
  exact and_congr_right fun _ => and_congr_right fun _ =>
    forall₂_congr fun _ _ => imp_not_comm

/-- An ASCII value loses every name that it lists, whatever stands beside it.  So the headers lose
all that is listed exactly if each listed name that is there, and does not go anyway, is listed in an
ASCII value too. -/
theorem losesListed_iff (h : Headers) :
    (∀ v ∈ values .connection h, v.IsAscii → ∀ n, v.Lists n →
      contains n (withoutHopByHop h) = false) ∧
    (h.LosesListed ↔ ∀ n, contains n h = true → n ∉ always →
      (∃ v ∈ values .connection h, v.Lists n) →
        ∃ v ∈ values .connection h, v.Lists n ∧ v.IsAscii) := by
  refine ⟨fun v hv hascii n hn => ?_, fun hloses n hthere hcross hlisted => ?_,
    fun hall v hv n hn => ?_⟩
  · rw [Bool.eq_false_iff, ne_eq, contains_of_lists_iff]
    exact fun hstays => hstays.2.2 v hv hn hascii
  · obtain ⟨v, hv, hn⟩ := hlisted
    by_contra hnone
    have hstays := contains_of_lists_iff.2
      ⟨hthere, hcross, fun w hw hl ha => hnone ⟨w, hw, hl, ha⟩⟩
    rw [hloses v hv n hn] at hstays
    cases hstays
  · rw [Bool.eq_false_iff, ne_eq, contains_of_lists_iff]
    rintro ⟨hthere, hcross, hnone⟩
    obtain ⟨w, hw, hl, hascii⟩ := hall n hthere hcross ⟨v, hv, hn⟩
    exact hnone w hw hl hascii

/-- One byte beyond ASCII in the next member keeps `x-hint`, which stands first. -/
theorem not_losesListed_stray : ¬ LosesListed
    [(.connection, ⟨Text.utf8 "x-hint, " ++ [0xFF], false, by decide⟩),
      (⟨"x-hint", rfl⟩, Outbound.anything)] := by
  intro hloses
  have hlost := hloses _ List.mem_cons_self ⟨"x-hint", rfl⟩
    ⟨[], [], Text.utf8 "x-hint", [], 0x2C :: 0x20 :: [0xFF], by decide, .inl rfl, .inr rfl,
      by simp, by decide⟩
  exact absurd hlost (by decide)

end Headers

end CredentialGateway
