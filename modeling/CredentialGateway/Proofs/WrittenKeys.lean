import CredentialGateway.Proofs.WrittenStrings

/-!
# How keys are written

A key is a row of bare or quoted parts, with dots between them and blanks around each.  A written
key is read up to the equals sign or the bracket that ends it.  Blanks, comments and line ends are
passed over up to what is solid.

    Gap g, x solid → skipLines (g ++ x :: t) = x :: t                        (skipLines_append)
    WritesKey k t, = or ] behind it → key (t ++ rest) = some (k, rest)         (key_of_writes)
-/

namespace CredentialGateway.Toml

/-! ## Blanks and comments -/

/-- Nothing, or a number sign and what it hides. -/
def IsComment (t : Text) : Prop := t = [] ∨ ∃ r, t = '#' :: r ∧ r.all isCommentChar = true

/-- Blanks, and lines that hold no more than a comment. -/
inductive Gap : Text → Prop
  | blanks {b : Text} (hb : IsBlank b) : Gap b
  | line {b c e g : Text} (hb : IsBlank b) (hc : IsComment c) (he : IsLineEnd e) (hg : Gap g) :
      Gap (b ++ (c ++ (e ++ g)))

/-- A character that starts no blank, comment or line end. -/
def IsSolid (c : Char) : Prop := c ∉ [' ', '\t', '#', '\n', '\r']

instance (c : Char) : Decidable (IsSolid c) := inferInstanceAs (Decidable (¬ _))

section Blanks

variable {b c e g t : Text} {x : Char}

theorem skipBlanks_append (hb : IsBlank b) (hx : x ≠ ' ' ∧ x ≠ '\t') (t : Text) :
    skipBlanks (b ++ x :: t) = x :: t := by
  rw [skipBlanks, List.dropWhile_append_of_pos (fun c hc => by simpa using hb c hc),
    List.dropWhile_cons_of_neg (by simpa using hx)]

theorem skipBlanks_of_isBlank (hb : IsBlank b) : skipBlanks b = [] := by
  rw [skipBlanks, List.dropWhile_eq_nil_iff]
  exact fun c hc => by simpa using hb c hc

theorem IsSolid.not_blank (h : IsSolid x) : x ≠ ' ' ∧ x ≠ '\t' := by
  simp_all [IsSolid]

theorem skipComment_of_solid (h : IsSolid x) (t : Text) : skipComment (x :: t) = x :: t := by
  rw [skipComment]
  rintro r heq
  simp_all [IsSolid]

theorem lineEnd?_of_solid (h : IsSolid x) (t : Text) : lineEnd? (x :: t) = none := by
  unfold lineEnd?
  split <;> simp_all [IsSolid]

theorem lineEnd?_append (he : IsLineEnd e) (t : Text) : lineEnd? (e ++ t) = some t := by
  rcases he with rfl | rfl <;> rfl

/-- Behind blanks stands the comment, or the line end if there is none. -/
theorem skipBlanks_comment (hb : IsBlank b) (hc : IsComment c) (he : IsLineEnd e) (t : Text) :
    skipBlanks (b ++ (c ++ (e ++ t))) = c ++ (e ++ t) := by
  rcases hc with rfl | ⟨r, rfl, -⟩
  · rcases he with rfl | rfl <;> exact skipBlanks_append hb (by decide) _
  · exact skipBlanks_append hb (by decide) _

theorem skipComment_append (hc : IsComment c) (he : IsLineEnd e) (t : Text) :
    skipComment (c ++ (e ++ t)) = e ++ t := by
  rcases hc with rfl | ⟨r, rfl, hr⟩
  · rcases he with rfl | rfl <;> rfl
  · rw [List.cons_append, skipComment, List.dropWhile_append_of_pos (List.all_eq_true.1 hr)]
    rcases he with rfl | rfl <;> exact List.dropWhile_cons_of_neg (by decide)

theorem endLine_append (hb : IsBlank b) (hc : IsComment c) (he : IsLineEnd e) (t : Text) :
    endLine (b ++ (c ++ (e ++ t))) = some t := by
  unfold endLine
  rw [skipBlanks_comment hb hc he, skipComment_append hc he]
  rcases he with rfl | rfl <;> rfl

theorem endLine_of_end (hb : IsBlank b) (hc : IsComment c) : endLine (b ++ c) = some [] := by
  unfold endLine
  rcases hc with rfl | ⟨r, rfl, hr⟩
  · rw [List.append_nil, skipBlanks_of_isBlank hb]
    rfl
  · rw [skipBlanks_append hb (by decide), skipComment,
      List.dropWhile_eq_nil_iff.2 (List.all_eq_true.1 hr)]

theorem endLine_of_solid (hb : IsBlank b) (hx : IsSolid x) (t : Text) :
    endLine (b ++ x :: t) = none := by
  unfold endLine
  rw [skipBlanks_append hb hx.not_blank, skipComment_of_solid hx]
  exact lineEnd?_of_solid hx t

theorem skipLines_append (hg : Gap g) (hx : IsSolid x) (t : Text) :
    skipLines (g ++ x :: t) = x :: t := by
  induction hg with
  | blanks hb =>
    rw [skipLines, skipBlanks_append hb hx.not_blank, skipComment_of_solid hx,
      lineEnd?_of_solid hx]
  | @line b c e g hb hc he hg ih =>
    have hlen : (g ++ x :: t).length < (b ++ (c ++ (e ++ g)) ++ x :: t).length := by
      rcases he with rfl | rfl <;> simp <;> omega
    rw [skipLines]
    simp only [List.append_assoc] at hlen ⊢
    rw [skipBlanks_comment hb hc he, skipComment_append hc he, lineEnd?_append he]
    simp only
    rw [if_pos hlen, ih]

end Blanks

/-! ## Keys -/

/-- The text writes one part of a key. -/
inductive WritesPart : Text → Text → Prop
  | bare {s : Text} (hs : s ≠ []) (h : s.all isBareChar = true) : WritesPart s s
  | quoted {s t : Text} (h : WritesString s t) : WritesPart s t

/-- The text writes the parts of a key. -/
inductive WritesParts : List Text → Text → Prop
  | last {b s t b' : Text} (hb : IsBlank b) (h : WritesPart s t) (hb' : IsBlank b') :
      WritesParts [s] (b ++ (t ++ b'))
  | cons {b s t b' r : Text} {ss : List Text} (hb : IsBlank b) (h : WritesPart s t)
      (hb' : IsBlank b') (hr : WritesParts ss r) :
      WritesParts (s :: ss) (b ++ (t ++ (b' ++ '.' :: r)))

structure WritesKey (k : Key) (t : Text) : Prop where
  parts : WritesParts k.parts t
  length : k.parts.length ≤ deepest

section Keys

variable {s t : Text} {x : Char}

theorem isBareChar_of_isBlank {b : Text} (hb : IsBlank b) (hx : isBareChar x = false) (u : Text) :
    ∃ c r, b ++ x :: u = c :: r ∧ isBareChar c = false := by
  cases b with
  | nil => exact ⟨x, u, rfl, hx⟩
  | cons c b =>
    refine ⟨c, b ++ x :: u, rfl, ?_⟩
    rcases hb c (by simp) with rfl | rfl <;> decide

/-- A character that a part of a key starts with. -/
def StartsKey (c : Char) : Prop := c = '"' ∨ c = '\x27' ∨ isBareChar c = true

instance (c : Char) : Decidable (StartsKey c) := inferInstanceAs (Decidable (_ ∨ _))

theorem StartsKey.ne {c d : Char} (hc : StartsKey c) (hd : ¬ StartsKey d) : c ≠ d :=
  fun h => hd (h ▸ hc)

theorem StartsKey.isSolid {c : Char} (h : StartsKey c) : IsSolid c := by
  simp [IsSolid, h.ne (d := ' ') (by decide), h.ne (d := '\t') (by decide),
    h.ne (d := '#') (by decide), h.ne (d := '\n') (by decide), h.ne (d := '\r') (by decide)]

theorem WritesPart.exists_cons (h : WritesPart s t) : ∃ c r, t = c :: r ∧ StartsKey c := by
  cases h with
  | bare hs h =>
    obtain ⟨c, r, rfl⟩ := List.exists_cons_of_ne_nil hs
    exact ⟨c, r, rfl, .inr (.inr (List.all_eq_true.1 h c (by simp)))⟩
  | quoted h =>
    cases h with
    | basic => exact ⟨_, _, rfl, .inl rfl⟩
    | literal => exact ⟨_, _, rfl, .inr (.inl rfl)⟩

theorem keyPart_append (h : WritesPart s t) {rest : Text}
    (hrest : ∃ c r, rest = c :: r ∧ isBareChar c = false) :
    keyPart (t ++ rest) = some (s, rest) := by
  cases h with
  | bare hs h =>
    obtain ⟨c, r, rfl, hc⟩ := hrest
    obtain ⟨d, s, rfl⟩ := List.exists_cons_of_ne_nil hs
    have h := List.all_eq_true.1 h
    have hd := h d (by simp)
    have hquote : ¬ (d == '"' || d == '\x27') = true := by
      intro hq
      rcases (by simpa using hq) with rfl | rfl <;> exact absurd hd (by decide)
    rw [List.cons_append, keyPart, if_neg hquote, if_pos hd, ← List.cons_append,
      List.takeWhile_append_of_pos h, List.dropWhile_append_of_pos h,
      List.takeWhile_cons_of_neg (by simp [hc]), List.dropWhile_cons_of_neg (by simp [hc]),
      List.append_nil]
  | quoted h =>
    have hline := readLine_append h rest
    cases h with
    | basic h => exact hline
    | literal h => exact hline

theorem keyPart_blanks {b : Text} (hb : IsBlank b) (h : WritesPart s t) {rest : Text}
    (hrest : ∃ c r, rest = c :: r ∧ isBareChar c = false) :
    keyPart (skipBlanks (b ++ (t ++ rest))) = some (s, rest) := by
  rw [← keyPart_append h hrest]
  obtain ⟨c, r, rfl, hc⟩ := h.exists_cons
  exact congrArg keyPart (skipBlanks_append hb hc.isSolid.not_blank _)

/-- A key that an equals sign or a closing bracket ends is read up to there. -/
theorem keyParts_append {ss : List Text} (h : WritesParts ss t) (hx : x = '=' ∨ x = ']')
    (rest : Text) : keyParts (t ++ x :: rest) = some (ss, x :: rest) := by
  have hbare : isBareChar x = false := by rcases hx with rfl | rfl <;> decide
  have hsolid : x ≠ ' ' ∧ x ≠ '\t' := by rcases hx with rfl | rfl <;> decide
  have hdot : x ≠ '.' := by rcases hx with rfl | rfl <;> decide
  induction h with
  | @last b s t b' hb h hb' =>
    rw [List.append_assoc, List.append_assoc, keyParts,
      keyPart_blanks hb h (isBareChar_of_isBlank hb' hbare rest)]
    simp only [Option.bind_eq_bind, Option.bind_some]
    rw [skipBlanks_append hb' hsolid]
    split
    · rename_i heq
      cases heq
      exact absurd rfl hdot
    · rfl
  | @cons b s t b' r ss hb h hb' hr ih =>
    have hlen : (r ++ x :: rest).length < (b ++ (t ++ (b' ++ '.' :: (r ++ x :: rest)))).length := by
      simp only [List.length_append, List.length_cons]
      omega
    rw [List.append_assoc, List.append_assoc, List.append_assoc, List.cons_append, keyParts,
      keyPart_blanks hb h (isBareChar_of_isBlank hb' (by decide) _)]
    simp only [Option.bind_eq_bind, Option.bind_some]
    rw [skipBlanks_append hb' (by decide)]
    simp only
    rw [if_pos hlen, ih]
    rfl

theorem key_of_writes {k : Key} (h : WritesKey k t) (hx : x = '=' ∨ x = ']') (rest : Text) :
    key (t ++ x :: rest) = some (k, x :: rest) := by
  rw [key, keyParts_append h.parts hx]
  simp only [Option.bind_eq_bind, Option.bind_some]
  rw [if_pos h.length, Key.parts, List.dropLast_concat, List.getLast?_concat]
  rfl

/-- A key stands behind blanks, and would be the same key without them. -/
theorem WritesKey.trim {k : Key} (h : WritesKey k t) :
    ∃ b c r, t = b ++ c :: r ∧ IsBlank b ∧ StartsKey c ∧ WritesKey k (c :: r) := by
  obtain ⟨hparts, hlen⟩ := h
  generalize hss : k.parts = ss at hparts
  cases hparts with
  | last hb h hb' =>
    obtain ⟨c, r, rfl, hc⟩ := h.exists_cons
    exact ⟨_, c, _, rfl, hb, hc, ⟨hss ▸ .last isBlank_nil h hb', hlen⟩⟩
  | cons hb h hb' hr =>
    obtain ⟨c, r, rfl, hc⟩ := h.exists_cons
    exact ⟨_, c, _, rfl, hb, hc, ⟨hss ▸ .cons isBlank_nil h hb' hr, hlen⟩⟩

end Keys

end CredentialGateway.Toml
