import CredentialGateway.Http.Request
import CredentialGateway.Proofs.Setup

/-!
# Bodies on a connection

What a body is behind a head: so many bytes, or chunks.  A chunk has its size in front, to base 16
in any spelling and perhaps with an extension; the last one has the size zero, and lines may follow
it up to an empty one.  Whatever spelling a caller chooses, the body is read that was written, and
reading ends where it ends.

    Chunked text body → readChunks (text ++ rest) = (body, some rest)      (readChunks_of_chunked)
    Frames framing text body → the body is read, and is whole                (readBody_of_frames)
    every list of chunks can be written                                   (chunked_writeChunks)
-/

namespace CredentialGateway.Http

/-! ## The grammar -/

/-- What may stand behind the size of a chunk, on its line. -/
def IsExtension (e : Bytes) : Prop :=
  e = [] ∨ 13 ∉ e ∧ 10 ∉ e ∧ ∃ blanks rest, e = blanks ++ 0x3B :: rest ∧
    ∀ b ∈ blanks, isBlankByte b = true

/-- The line gives the size of a chunk. -/
inductive SizeLine (n : Nat) : Bytes → Prop
  | mk {digits : Text} {extension : Bytes} (hsize : Hex.number? digits = some n)
      (hextension : IsExtension extension) : SizeLine n (digits.utf8 ++ extension)

/-- The text is a body in chunks, up to the empty line that ends it. -/
inductive Chunked : Bytes → Bytes → Prop
  | last {line : Bytes} {trailers : List Bytes} (hline : SizeLine 0 line)
      (htrailers : ∀ t ∈ trailers, t ≠ [] ∧ 13 ∉ t ∧ 10 ∉ t) :
      Chunked (line ++ crlf ++ trailers.flatMap (· ++ crlf) ++ crlf) []
  | chunk {line c text body : Bytes} (hline : SizeLine c.length line) (hc : c ≠ [])
      (h : Chunked text body) : Chunked (line ++ crlf ++ c ++ crlf ++ text) (c ++ body)

/-- The text is a body behind a head with this framing. -/
inductive Frames : Framing → Bytes → Bytes → Prop
  | length (body : Bytes) : Frames (.length body.length) body body
  | chunked {text body : Bytes} (h : Chunked text body) : Frames .chunked text body

/-! ## Lines -/

/-- Up to the first LF. -/
theorem afterLine_append {line : Bytes} (h : 10 ∉ line) (rest : Bytes) :
    afterLine (line ++ crlf ++ rest) = some rest := by
  induction line with
  | nil => rfl
  | cons b line ih =>
    rw [List.mem_cons, not_or] at h
    rw [List.cons_append, List.cons_append, afterLine, if_neg (by simpa using Ne.symm h.1), ih h.2]

/-- The lines behind the last chunk are passed over, up to the empty one. -/
theorem afterTrailers_append {trailers : List Bytes}
    (h : ∀ t ∈ trailers, t ≠ [] ∧ 13 ∉ t ∧ 10 ∉ t) (rest : Bytes) :
    afterTrailers (trailers.flatMap (· ++ crlf) ++ crlf ++ rest) = some rest := by
  induction trailers with
  | nil =>
    rw [afterTrailers, if_pos (by rfl)]
    rfl
  | cons t trailers ih =>
    obtain ⟨hne, hcr, hlf⟩ := h t List.mem_cons_self
    obtain ⟨b, t, rfl⟩ := List.exists_cons_of_ne_nil hne
    have hb : b ≠ 13 := fun hb => hcr (hb ▸ List.mem_cons_self)
    have hline := afterLine_append hlf (trailers.flatMap (· ++ crlf) ++ crlf ++ rest)
    rw [List.flatMap_cons, List.append_assoc, List.append_assoc, ← List.append_assoc _ crlf rest,
      afterTrailers, if_neg (by simp [crlf, hb])]
    split
    · rename_i after hafter
      cases hafter.symm.trans hline
      exact ih fun t ht => h t (List.mem_cons_of_mem _ ht)
    · rename_i hafter
      cases hafter.symm.trans hline

/-! ## Sizes -/

/-- A number is written with digits. -/
theorem isSome_digit?_of_number? {t : Text} {n : Nat} (h : Hex.number? t = some n) :
    ∀ c ∈ t, (Hex.digit? c).isSome = true := by
  unfold Hex.number? at h
  split at h
  · cases h
  · clear * - h
    generalize 0 = start at h
    induction t generalizing start with
    | nil => simp
    | cons c t ih =>
      obtain ⟨next, hnext, h⟩ := Option.bind_eq_some_iff.1 h
      obtain ⟨d, hd, -⟩ := Option.map_eq_some_iff.1 hnext
      rintro c' hc'
      rcases List.mem_cons.1 hc' with rfl | hc'
      · rw [hd]
        rfl
      · exact ih next h c' hc'

/-- A digit is ASCII, a byte that is read as one, and no line end. -/
theorem sizeDigit_of_digit? {c : Char} (h : (Hex.digit? c).isSome = true) :
    c.toNat < 0x80 ∧ isSizeDigit (UInt8.ofNat c.toNat) = true ∧ UInt8.ofNat c.toNat ≠ 10 := by
  have hascii : c.toNat < 0x7F := by
    by_contra hc
    rw [Hex.digit?_of_le (by omega)] at h
    cases h
  have hbyte : (UInt8.ofNat c.toNat).toNat = c.toNat := by
    rw [UInt8.toNat_ofNat', Nat.mod_eq_of_lt (by omega)]
  refine ⟨by omega, ?_, fun hlf => ?_⟩
  · rw [isSizeDigit, hbyte, Char.ofNat_toNat]
    exact h
  · rw [hlf] at hbyte
    have hc : c = Char.ofNat 10 := by
      rw [← Char.ofNat_toNat c, ← hbyte]
      rfl
    rw [hc] at h
    cases h

/-- The size of a chunk is read off its line. -/
theorem chunkSize?_append {n : Nat} {line : Bytes} (h : SizeLine n line) (rest : Bytes) :
    chunkSize? (line ++ crlf ++ rest) = some (n, rest) := by
  obtain @⟨digits, extension, hsize, hextension⟩ := h
  have hdigit := fun c hc => sizeDigit_of_digit? (isSome_digit?_of_number? hsize c hc)
  have ascii : ∀ c ∈ digits, c.toNat < 0x80 := fun c hc => (hdigit c hc).1
  have hbytes : ∀ b ∈ digits.utf8, isSizeDigit b = true ∧ b ≠ 10 := by
    rw [Bytes.utf8_of_ascii ascii]
    intro b hb
    obtain ⟨c, hc, rfl⟩ := List.mem_map.1 hb
    exact (hdigit c hc).2
  -- the byte behind the digits is none
  have hstop : (extension ++ (crlf ++ rest)).takeWhile isSizeDigit = [] := by
    rcases hextension with rfl | ⟨-, -, blanks, more, rfl, hblank⟩
    · rfl
    · cases blanks with
      | nil => rfl
      | cons b blanks =>
        have hb : b = 0x20 ∨ b = 0x09 := by simpa [isBlankByte] using hblank b List.mem_cons_self
        rcases hb with rfl | rfl <;> rfl
  have hsizeText : (digits.utf8 ++ extension ++ crlf ++ rest).takeWhile isSizeDigit =
      digits.utf8 := by
    rw [List.append_assoc, List.append_assoc,
      List.takeWhile_append_of_pos fun b hb => (hbytes b hb).1, hstop, List.append_nil]
  have hline : afterLine (digits.utf8 ++ extension ++ crlf ++ rest) = some rest := by
    refine afterLine_append (fun h => ?_) rest
    rcases List.mem_append.1 h with h | h
    · exact (hbytes 10 h).2 rfl
    · rcases hextension with rfl | ⟨-, hlf, -⟩
      · simp at h
      · exact hlf h
  rw [chunkSize?, hsizeText, hline, Bytes.asciiText_utf8 ascii, hsize]
  rfl

/-! ## Bodies -/

/-- A body in chunks is read as what they hold, up to where it ends.  The induction is on the chunks;
one that is not the last is followed by the rest of the body. -/
theorem readChunks_of_chunked {text body : Bytes} (h : Chunked text body) (rest : Bytes) :
    readChunks (text ++ rest) = (body, some rest) := by
  induction h with
  | @last line trailers hline htrailers =>
    have hsize := chunkSize?_append hline (trailers.flatMap (· ++ crlf) ++ crlf ++ rest)
    simp only [← List.append_assoc] at hsize
    rw [readChunks]
    split
    · rename_i hnone
      cases hsize.symm.trans hnone
    · rename_i after hafter
      cases hsize.symm.trans hafter
      exact congrArg (Prod.mk []) (afterTrailers_append htrailers rest)
    · rename_i n after hafter
      cases hsize.symm.trans hafter
  | @chunk line c text body hline hc h ih =>
    obtain ⟨b, c, rfl⟩ := List.exists_cons_of_ne_nil hc
    have hsize := chunkSize?_append hline ((b :: c) ++ crlf ++ (text ++ rest))
    have hdrop : ((b :: c) ++ crlf ++ (text ++ rest)).drop (c.length + 1) =
        13 :: 10 :: (text ++ rest) := by
      rw [List.append_assoc]
      exact List.drop_left
    have htake : ((b :: c) ++ crlf ++ (text ++ rest)).take (c.length + 1) = b :: c := by
      simp
    rw [show line ++ crlf ++ (b :: c) ++ crlf ++ text ++ rest =
      line ++ crlf ++ ((b :: c) ++ crlf ++ (text ++ rest)) by simp only [List.append_assoc],
      readChunks, hsize]
    simp only [List.length_cons]
    split
    · rename_i after hafter
      rw [hdrop, List.cons.injEq, List.cons.injEq] at hafter
      rw [htake, ← hafter.2.2, ih]
    · rename_i hnot
      exact absurd hdrop (hnot _)

/-- A body is read as it was written, and found to be whole. -/
theorem readBody_of_frames {framing : Framing} {text body : Bytes} (h : Frames framing text body)
    (rest : Bytes) : readBody framing (text ++ rest) = (body, true) := by
  cases h with
  | length => simp [readBody]
  | chunked h => rw [readBody, readChunks_of_chunked h]; rfl

/-- Every list of chunks can be written. -/
theorem chunked_writeChunks (cs : List Bytes) : Chunked (writeChunks cs) cs.flatten := by
  have hsize (n : Nat) : SizeLine n (Hex.ofNat n).utf8 := by
    simpa using SizeLine.mk (Hex.number?_ofNat n) (.inl rfl)
  induction cs with
  | nil =>
    have hnone : ∀ t ∈ ([] : List Bytes), t ≠ [] ∧ 13 ∉ t ∧ 10 ∉ t := by simp
    exact .last (hsize 0) hnone
  | cons c cs ih =>
    by_cases hc : c = []
    · subst hc
      exact ih
    · have htext : writeChunks (c :: cs) = (Hex.ofNat c.length).utf8 ++ crlf ++ c ++ crlf ++
          writeChunks cs := by
        simp [writeChunks, writeChunk, hc]
      rw [htext]
      exact .chunk (hsize c.length) hc ih

end CredentialGateway.Http
