/-!
# Text and bytes

A text is a list of characters, a byte string a list of bytes.  `Text.utf8` writes a text in
UTF-8, `Bytes.chunks` reads it back character by character and keeps every byte that belongs to
no character, and `Bytes.text?` reads a byte string that is well-formed as a whole.

    nextChar? b rest = some (c, r) → b :: rest = utf8EncodeChar c ++ r      (eq_of_nextChar?)
    text? bs = some t ↔ utf8 t = bs                                         (text?_eq_some_iff)

A character is accepted exactly in its shortest form: `nextChar?` asks for the least code point
of the length at hand, refuses the surrogates, and stops at U+10FFFF.
-/

namespace CredentialGateway

abbrev Text := List Char

abbrev Bytes := List UInt8

instance : Coe String Text := ⟨String.toList⟩

/-! ## Algorithm -/

namespace Text

/-- The UTF-8 bytes of a text. -/
def utf8 (t : Text) : Bytes := t.flatMap String.utf8EncodeChar

/-- The text with its ASCII letters in lower case. -/
def lower (t : Text) : Text := t.map Char.toLower

/-- Equality up to the case of ASCII letters. -/
def sameLetters (a b : Text) : Bool := a.lower == b.lower

/-- The text without the leading and trailing characters that satisfy `p`. -/
def trimBy (p : Char → Bool) (t : Text) : Text :=
  ((t.dropWhile p).reverse.dropWhile p).reverse

/-- The text without trailing occurrences of `c`. -/
def dropTrailing (c : Char) (t : Text) : Text := (t.reverse.dropWhile (· == c)).reverse

/-- The part before the first `c`, and the part after it if there is one. -/
def cut (c : Char) (t : Text) : Text × Option Text :=
  match t.span (· != c) with
  | (before, []) => (before, none)
  | (before, _ :: after) => (before, some after)

/-- The parts of a list of texts, `sep` between them. -/
def join (sep : Text) (parts : List Text) : Text := sep.intercalate parts

/-- The decimal digits of a number. -/
def ofNat (n : Nat) : Text := (Nat.repr n).toList

end Text

namespace Bytes

/-- The six low bits of a continuation byte. -/
def continuation? (b : UInt8) : Option Nat :=
  if 0x80 ≤ b.toNat && b.toNat < 0xC0 then some (b.toNat - 0x80) else none

/-- The character with this code point, if it is one and is not below `least`. -/
def scalar? (least n : Nat) : Option Char :=
  if least ≤ n && n.isValidChar then some (Char.ofNat n) else none

/-- The character whose UTF-8 form starts with byte `b` and goes on in `rest`, and what follows. -/
def nextChar? (b : UInt8) (rest : Bytes) : Option (Char × Bytes) :=
  if b.toNat < 0x80 then some (Char.ofNat b.toNat, rest)
  else if b.toNat < 0xC0 then none
  else if b.toNat < 0xE0 then
    match rest with
    | x :: r => do
      let x ← continuation? x
      let c ← scalar? 0x80 ((b.toNat - 0xC0) * 64 + x)
      return (c, r)
    | _ => none
  else if b.toNat < 0xF0 then
    match rest with
    | x :: y :: r => do
      let x ← continuation? x
      let y ← continuation? y
      let c ← scalar? 0x800 (((b.toNat - 0xE0) * 64 + x) * 64 + y)
      return (c, r)
    | _ => none
  else if b.toNat < 0xF8 then
    match rest with
    | x :: y :: z :: r => do
      let x ← continuation? x
      let y ← continuation? y
      let z ← continuation? z
      let c ← scalar? 0x10000 ((((b.toNat - 0xF0) * 64 + x) * 64 + y) * 64 + z)
      return (c, r)
    | _ => none
  else none

theorem scalar?_eq_some_iff {least n : Nat} {c : Char} :
    scalar? least n = some c ↔ least ≤ n ∧ c.toNat = n := by
  unfold scalar?
  constructor
  · intro h
    split at h
    · rename_i hn
      simp at hn h
      subst h
      exact ⟨hn.1, by rw [Char.ofNat, dif_pos hn.2]; rfl⟩
    · simp at h
  · rintro ⟨hl, rfl⟩
    have hv : c.toNat.isValidChar := c.valid
    simp [hl, hv]

theorem continuation?_eq_some_iff {b : UInt8} {n : Nat} :
    continuation? b = some n ↔ b.toNat = n + 0x80 ∧ n < 0x40 := by
  unfold continuation?
  constructor
  · intro h
    split at h
    · rename_i hb
      simp at hb h
      omega
    · simp at h
  · intro h
    rw [if_pos (by simp; omega)]
    simp; omega

theorem eq_ofNat {b : UInt8} {n : Nat} (h : b.toNat = n) : b = UInt8.ofNat n := by
  rw [← h, UInt8.ofNat_toNat]

theorem toNat_ofNat {n : Nat} (h : n < 256) : (UInt8.ofNat n).toNat = n :=
  UInt8.toNat_ofNat_of_lt' h

/-- The UTF-8 form of a character, by its code point. -/
theorem utf8EncodeChar_eq (c : Char) : String.utf8EncodeChar c =
    if c.toNat ≤ 0x7F then [UInt8.ofNat c.toNat]
    else if c.toNat ≤ 0x7FF then
      [UInt8.ofNat (c.toNat / 64 % 32 + 192), UInt8.ofNat (c.toNat % 64 + 128)]
    else if c.toNat ≤ 0xFFFF then
      [UInt8.ofNat (c.toNat / 4096 % 16 + 224), UInt8.ofNat (c.toNat / 64 % 64 + 128),
        UInt8.ofNat (c.toNat % 64 + 128)]
    else
      [UInt8.ofNat (c.toNat / 262144 % 8 + 240), UInt8.ofNat (c.toNat / 4096 % 64 + 128),
        UInt8.ofNat (c.toNat / 64 % 64 + 128), UInt8.ofNat (c.toNat % 64 + 128)] := rfl

/-- A character that is read stands there in its UTF-8 form. -/
theorem eq_of_nextChar? {b : UInt8} {rest : Bytes} {c : Char} {r : Bytes}
    (h : nextChar? b rest = some (c, r)) : b :: rest = String.utf8EncodeChar c ++ r := by
  unfold nextChar? at h
  rw [utf8EncodeChar_eq]
  split at h
  · rename_i hb
    simp only [Option.some.injEq, Prod.mk.injEq] at h
    obtain ⟨rfl, rfl⟩ := h
    have hc : (Char.ofNat b.toNat).toNat = b.toNat := by
      rw [Char.ofNat, dif_pos (by simp only [Nat.isValidChar]; omega)]; rfl
    rw [if_pos (by omega), hc, UInt8.ofNat_toNat]
    rfl
  · split at h
    · simp at h
    · split at h
      · split at h
        · simp only [Option.bind_eq_bind, Option.bind_eq_some_iff, continuation?_eq_some_iff,
            scalar?_eq_some_iff] at h
          obtain ⟨x, ⟨hx, _⟩, c, ⟨hl, hc⟩, h⟩ := h
          simp only [Option.pure_def, Option.some.injEq, Prod.mk.injEq] at h
          obtain ⟨rfl, rfl⟩ := h
          rw [if_neg (by omega), if_pos (by omega)]
          simp only [List.cons_append, List.nil_append, List.cons.injEq, and_true]
          exact ⟨eq_ofNat (by omega), eq_ofNat (by omega)⟩
        · simp at h
      · split at h
        · split at h
          · simp only [Option.bind_eq_bind, Option.bind_eq_some_iff, continuation?_eq_some_iff,
              scalar?_eq_some_iff] at h
            obtain ⟨x, ⟨hx, _⟩, y, ⟨hy, _⟩, c, ⟨hl, hc⟩, h⟩ := h
            simp only [Option.pure_def, Option.some.injEq, Prod.mk.injEq] at h
            obtain ⟨rfl, rfl⟩ := h
            rw [if_neg (by omega), if_neg (by omega), if_pos (by omega)]
            simp only [List.cons_append, List.nil_append, List.cons.injEq, and_true]
            exact ⟨eq_ofNat (by omega), eq_ofNat (by omega), eq_ofNat (by omega)⟩
          · simp at h
        · split at h
          · split at h
            · simp only [Option.bind_eq_bind, Option.bind_eq_some_iff, continuation?_eq_some_iff,
                scalar?_eq_some_iff] at h
              obtain ⟨x, ⟨hx, _⟩, y, ⟨hy, _⟩, z, ⟨hz, _⟩, c, ⟨hl, hc⟩, h⟩ := h
              simp only [Option.pure_def, Option.some.injEq, Prod.mk.injEq] at h
              obtain ⟨rfl, rfl⟩ := h
              rw [if_neg (by omega), if_neg (by omega), if_neg (by omega)]
              simp only [List.cons_append, List.nil_append, List.cons.injEq, and_true]
              exact ⟨eq_ofNat (by omega), eq_ofNat (by omega), eq_ofNat (by omega),
                eq_ofNat (by omega)⟩
            · simp at h
          · simp at h

theorem length_of_nextChar? {b : UInt8} {rest : Bytes} {c : Char} {r : Bytes}
    (h : nextChar? b rest = some (c, r)) : r.length ≤ rest.length := by
  have hl := congrArg List.length (eq_of_nextChar? h)
  have hc := c.utf8Size_pos
  simp at hl
  omega

/-- A piece of a byte string: a character, or a byte that is part of none. -/
inductive Chunk
  | char (c : Char)
  | stray (b : UInt8)
  deriving DecidableEq, Repr

/-- The characters of a byte string, in order, with the bytes that belong to none of them. -/
def chunks : Bytes → List Chunk
  | [] => []
  | b :: rest =>
    match _h : nextChar? b rest with
    | some (c, r) => .char c :: chunks r
    | none => .stray b :: chunks rest
termination_by bs => bs.length
decreasing_by
  · exact Nat.lt_succ_of_le (length_of_nextChar? _h)
  · exact Nat.lt_succ_self _

/-- The text that a byte string is the UTF-8 form of. -/
def text? (bs : Bytes) : Option Text :=
  (chunks bs).mapM fun
    | .char c => some c
    | .stray _ => none

/-- The text of a byte string all of whose bytes are ASCII. -/
def asciiText (bs : Bytes) : Text := bs.map fun b => Char.ofNat b.toNat

/-! ## Lemmas -/

/-- A character is read from its UTF-8 form, whatever follows. -/
theorem chunks_utf8EncodeChar (c : Char) (rest : Bytes) :
    chunks (String.utf8EncodeChar c ++ rest) = .char c :: chunks rest := by
  have hmax : c.toNat < 0x110000 := by
    have := c.valid
    simp only [UInt32.isValidChar, Nat.isValidChar] at this
    have h : c.val.toNat = c.toNat := rfl
    omega
  have read (b : UInt8) (bs : Bytes) (h : nextChar? b bs = some (c, rest)) :
      chunks (b :: bs) = .char c :: chunks rest := by
    rw [chunks]; split <;> simp_all
  have hs (least n : Nat) (h : least ≤ c.toNat) (hn : n = c.toNat) : scalar? least n = some c :=
    scalar?_eq_some_iff.2 ⟨hn ▸ h, hn.symm⟩
  have hk (n : Nat) : continuation? (UInt8.ofNat (n % 64 + 128)) = some (n % 64) :=
    continuation?_eq_some_iff.2 ⟨toNat_ofNat (by omega), by omega⟩
  rw [utf8EncodeChar_eq]
  split
  · refine read _ rest ?_
    unfold nextChar?
    rw [toNat_ofNat (by omega), if_pos (by omega)]
    simp
  · split
    · refine read _ (UInt8.ofNat (c.toNat % 64 + 128) :: rest) ?_
      simp only [nextChar?, toNat_ofNat (show c.toNat / 64 % 32 + 192 < 256 by omega)]
      rw [if_neg (by omega), if_neg (by omega), if_pos (by omega), hk]
      simp only [Option.bind_eq_bind, Option.bind_some]
      rw [hs _ _ (by omega) (by omega)]
      rfl
    · split
      · refine read _ (UInt8.ofNat (c.toNat / 64 % 64 + 128) ::
          UInt8.ofNat (c.toNat % 64 + 128) :: rest) ?_
        simp only [nextChar?, toNat_ofNat (show c.toNat / 4096 % 16 + 224 < 256 by omega)]
        rw [if_neg (by omega), if_neg (by omega), if_neg (by omega), if_pos (by omega), hk, hk]
        simp only [Option.bind_eq_bind, Option.bind_some]
        rw [hs _ _ (by omega) (by omega)]
        rfl
      · refine read _ (UInt8.ofNat (c.toNat / 4096 % 64 + 128) ::
          UInt8.ofNat (c.toNat / 64 % 64 + 128) :: UInt8.ofNat (c.toNat % 64 + 128) :: rest) ?_
        simp only [nextChar?, toNat_ofNat (show c.toNat / 262144 % 8 + 240 < 256 by omega)]
        rw [if_neg (by omega), if_neg (by omega), if_neg (by omega), if_neg (by omega),
          if_pos (by omega), hk, hk, hk]
        simp only [Option.bind_eq_bind, Option.bind_some]
        rw [hs _ _ (by omega) (by omega)]
        rfl

theorem chunks_utf8 (t : Text) : chunks t.utf8 = t.map .char := by
  induction t with
  | nil => simp [Text.utf8, chunks]
  | cons c t ih =>
    rw [Text.utf8, List.flatMap_cons, chunks_utf8EncodeChar]
    exact congrArg _ ih

/-- A text is read back from its UTF-8 form. -/
theorem text?_utf8 (t : Text) : text? t.utf8 = some t := by
  rw [text?, chunks_utf8, List.mapM_map]
  induction t with
  | nil => rfl
  | cons c t ih => rw [List.mapM_cons, ih]; rfl

/-- A text is read only from its UTF-8 form. -/
theorem utf8_of_text? {bs : Bytes} {t : Text} (h : text? bs = some t) : t.utf8 = bs := by
  unfold text? at h
  fun_induction chunks bs generalizing t with
  | case1 => simp at h; subst h; rfl
  | case2 b rest c r hc ih =>
    simp only [List.mapM_cons, Option.bind_eq_bind, Option.bind_some, Option.bind_eq_some_iff,
      Option.pure_def, Option.some.injEq] at h
    obtain ⟨t', ht, rfl⟩ := h
    rw [eq_of_nextChar? hc, ← ih ht, Text.utf8, List.flatMap_cons]
    rfl
  | case3 b rest _ ih => simp [List.mapM_cons] at h

/-- The UTF-8 form of an ASCII text has one byte a character. -/
theorem utf8_of_ascii {t : Text} (h : ∀ c ∈ t, c.toNat < 0x80) :
    t.utf8 = t.map fun c => UInt8.ofNat c.toNat := by
  induction t with
  | nil => rfl
  | cons c t ih =>
    have hc := h c List.mem_cons_self
    rw [Text.utf8, List.flatMap_cons, utf8EncodeChar_eq, if_pos (by omega), List.map_cons,
      ← ih fun d hd => h d (List.mem_cons_of_mem c hd)]
    rfl

theorem asciiText_utf8 {t : Text} (h : ∀ c ∈ t, c.toNat < 0x80) : asciiText t.utf8 = t := by
  rw [utf8_of_ascii h, asciiText, List.map_map]
  conv => rhs; rw [← List.map_id t]
  refine List.map_congr_left fun c hc => ?_
  have := h c hc
  simp only [Function.comp_apply, id_eq]
  rw [toNat_ofNat (by omega)]
  simp

theorem text?_eq_some_iff {bs : Bytes} {t : Text} : text? bs = some t ↔ t.utf8 = bs :=
  ⟨utf8_of_text?, fun h => h ▸ text?_utf8 t⟩

end Bytes

end CredentialGateway
