import CredentialGateway.Proofs.Occurrences
import CredentialGateway.Text.Quoted

/-!
# Bytes between quotes

A byte string is shown character by character, and byte by byte where it is no text.  Nothing is
lost in it: each piece is read back from its shown form, whatever follows, so no shown form starts
another one, none starts with the closing quote, and the quoted text determines the bytes.

    readPiece (p.shown ++ rest) = some (p, rest)                            (readPiece_shown)
    quotedBytes a = quotedBytes b ↔ a = b                                (quotedBytes_inj)
-/

namespace CredentialGateway

/-! ## Pieces of a byte string -/

namespace Bytes.Chunk

/-- The bytes that the piece is. -/
def bytes : Chunk → Bytes
  | char c => String.utf8EncodeChar c
  | stray b => [b]

/-- How the piece is shown between the quotes. -/
def shown : Chunk → Text
  | char c => Text.escape ['"', '\x27'] c
  | stray b => '\\' :: 'x' :: Hex.ofByte b

/-- The pieces are the whole. -/
theorem flatMap_bytes_chunks (bs : Bytes) : (chunks bs).flatMap bytes = bs := by
  fun_induction chunks bs with
  | case1 => rfl
  | case2 b rest c r h ih =>
    rw [List.flatMap_cons, ih, bytes, ← eq_of_nextChar? h]
  | case3 b rest h ih =>
    rw [List.flatMap_cons, ih]
    rfl

theorem chunks_inj {a b : Bytes} : chunks a = chunks b ↔ a = b := by
  constructor
  · intro h
    rw [← flatMap_bytes_chunks a, h, flatMap_bytes_chunks b]
  · rintro rfl
    rfl

end Bytes.Chunk

namespace Text

theorem quotedBytes_eq (bs : Bytes) :
    quotedBytes bs = '"' :: (Bytes.chunks bs).flatMap Bytes.Chunk.shown ++ ['"'] := by
  have hpiece : Bytes.Chunk.shown = fun p => match p with
      | .char c => escape ['"', '\x27'] c
      | .stray b => '\\' :: 'x' :: Hex.ofByte b := by
    funext p
    cases p <;> rfl
  rw [hpiece]
  rfl

/-! ## Reading a piece -/

/-- The piece that a backslash announces, and what follows. -/
def readEscape : Text → Option (Bytes.Chunk × Text)
  | '0' :: rest => some (.char '\x00', rest)
  | 't' :: rest => some (.char '\t', rest)
  | 'r' :: rest => some (.char '\r', rest)
  | 'n' :: rest => some (.char '\n', rest)
  | 'x' :: a :: b :: rest => do
    return (.stray (UInt8.ofNat (16 * (← Hex.digit? a) + (← Hex.digit? b))), rest)
  | 'u' :: '\x7b' :: rest => do
    let (digits, rest) := cut '\x7d' rest
    return (.char (Char.ofNat (← Hex.number? digits)), ← rest)
  | c :: rest => some (.char c, rest)
  | [] => none

/-- The piece that is shown at the front, and what follows. -/
def readPiece : Text → Option (Bytes.Chunk × Text)
  | '\\' :: rest => readEscape rest
  | c :: rest => some (.char c, rest)
  | [] => none

theorem readPiece_of_ne {c : Char} (h : c ≠ '\\') (rest : Text) :
    readPiece (c :: rest) = some (.char c, rest) := by
  rw [readPiece]
  exact h

/-- The digits of a byte are read in upper case too. -/
theorem readPiece_stray (b : UInt8) (rest : Text) :
    readPiece (Bytes.Chunk.shown (.stray b) ++ rest) = some (.stray b, rest) := by
  have every : ∀ d < 16, Hex.digit? (Nat.digitChar d).toUpper = some d := by decide
  have hb := b.toNat_lt
  have hnum : 16 * (b.toNat / 16) + b.toNat % 16 = b.toNat := by omega
  simp only [Bytes.Chunk.shown, Hex.ofByte, List.cons_append, List.nil_append, readPiece,
    readEscape, every _ (show b.toNat / 16 < 16 by omega),
    every _ (show b.toNat % 16 < 16 by omega), Option.bind_eq_bind, Option.bind_some, hnum,
    UInt8.ofNat_toNat]
  rfl

theorem readPiece_number (c : Char) (rest : Text) :
    readPiece ("\\u\x7b".toList ++ Hex.ofNat c.toNat ++ ['\x7d'] ++ rest) =
      some (.char c, rest) := by
  have hbrace : '\x7d' ∉ Hex.ofNat c.toNat := fun hm => by
    obtain ⟨d, hd, h⟩ := Hex.exists_digitChar_of_mem_ofNat hm
    have every : ∀ d < 16, '\x7d' ≠ Nat.digitChar d := by decide
    exact every d hd h
  have htext : "\\u\x7b".toList ++ Hex.ofNat c.toNat ++ ['\x7d'] ++ rest =
      '\\' :: 'u' :: '\x7b' :: (Hex.ofNat c.toNat ++ '\x7d' :: rest) := by simp
  rw [htext, readPiece, readEscape, cut_append_cons hbrace]
  simp [Hex.number?_ofNat]

/-- A piece is read back from what is shown of it.  The cases are those of the escape. -/
theorem readPiece_shown (p : Bytes.Chunk) (rest : Text) :
    readPiece (p.shown ++ rest) = some (p, rest) := by
  cases p with
  | stray b => exact readPiece_stray b rest
  | char c =>
    rw [Bytes.Chunk.shown]
    by_cases h0 : c = '\x00'
    · subst h0; rfl
    by_cases ht : c = '\t'
    · subst ht; rfl
    by_cases hr : c = '\r'
    · subst hr; rfl
    by_cases hn : c = '\n'
    · subst hn; rfl
    by_cases hq : c = '\\' ∨ c = '"' ∨ c = '\x27'
    · rcases hq with rfl | rfl | rfl <;> rfl
    have hplain : escape ['"', '\x27'] c = if hasGlyph c then [c]
        else "\\u\x7b".toList ++ Hex.ofNat c.toNat ++ ['\x7d'] := by
      simp only [not_or] at hq
      simp [escape, h0, ht, hr, hn, hq]
    rw [hplain]
    split
    · exact readPiece_of_ne (fun h => hq (.inl h)) rest
    · exact readPiece_number c rest

/-! ## What is quoted -/

/-- No shown form is the start of another one. -/
theorem shown_append_inj {p q : Bytes.Chunk} {s t : Text} (h : p.shown ++ s = q.shown ++ t) :
    p = q ∧ s = t := by
  have hread := readPiece_shown p s
  rw [h, readPiece_shown q t, Option.some.injEq, Prod.mk.injEq] at hread
  exact ⟨hread.1.symm, hread.2.symm⟩

/-- The closing quote starts no piece: one that belongs to the text is escaped. -/
theorem shown_append_ne_quote (p : Bytes.Chunk) (s : Text) : p.shown ++ s ≠ ['"'] := by
  intro h
  have hread := readPiece_shown p s
  rw [h] at hread
  obtain ⟨rfl, rfl⟩ := Prod.mk.inj (Option.some.inj (hread.symm.trans rfl))
  cases h

theorem flatMap_shown_inj {ps qs : List Bytes.Chunk}
    (h : ps.flatMap Bytes.Chunk.shown ++ ['"'] = qs.flatMap Bytes.Chunk.shown ++ ['"']) :
    ps = qs := by
  induction ps generalizing qs with
  | nil =>
    cases qs with
    | nil => rfl
    | cons q qs =>
      rw [List.flatMap_cons, List.append_assoc] at h
      exact absurd h.symm (shown_append_ne_quote q _)
  | cons p ps ih =>
    cases qs with
    | nil =>
      rw [List.flatMap_cons, List.append_assoc] at h
      exact absurd h (shown_append_ne_quote p _)
    | cons q qs =>
      rw [List.flatMap_cons, List.flatMap_cons, List.append_assoc, List.append_assoc] at h
      obtain ⟨rfl, hrest⟩ := shown_append_inj h
      rw [ih hrest]

/-- What is quoted can be told from the quoted text. -/
theorem quotedBytes_inj {a b : Bytes} : quotedBytes a = quotedBytes b ↔ a = b := by
  constructor
  · intro h
    rw [quotedBytes_eq, quotedBytes_eq, List.cons_append, List.cons_append] at h
    exact Bytes.Chunk.chunks_inj.1 (flatMap_shown_inj (List.cons.inj h).2)
  · rintro rfl
    rfl

end Text

end CredentialGateway
