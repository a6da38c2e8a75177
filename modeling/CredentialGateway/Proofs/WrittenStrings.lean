import CredentialGateway.Proofs.Statements
import CredentialGateway.Toml.Quote

/-!
# How strings are written

Between double quotes each character stands for itself or is escaped, and between single quotes it
stands for itself.  Between three quotes there may be line ends, up to two quotes in a row, and, if
the quotes are double, line ends that a backslash hides.  Every string can be written, and what is
written so is read so.

    LongReader quote C hides read → read reads what is written between three quotes
    WritesString s t → readLine (t ++ rest) = some (s, rest)                 (readLine_append)
    WritesText s t, no quote behind it → read (t ++ rest) = some (s, rest)       (read_append)
-/

namespace CredentialGateway.Toml

def IsBlank (b : Text) : Prop := ∀ c ∈ b, c = ' ' ∨ c = '\t'

def IsLineEnd (t : Text) : Prop := t = ['\n'] ∨ t = ['\r', '\n']

instance (b : Text) : Decidable (IsBlank b) := List.decidableBAll (fun c => c = ' ' ∨ c = '\t') b

theorem isBlank_nil : IsBlank [] := by simp [IsBlank]

/-! ## On one line -/

/-- A text that stands for a character between double quotes. -/
inductive Escaped : Char → Text → Prop
  | plain {c : Char} (h : Quote.isPlain c = true) (hquote : c ≠ '"') (hslash : c ≠ '\\') :
      Escaped c [c]
  | letter {c e : Char} (h : Quote.letter? e = some c) : Escaped c ['\\', e]
  | short {c d₁ d₂ d₃ d₄ : Char} (h : Quote.scalar? [d₁, d₂, d₃, d₄] = some c) :
      Escaped c ['\\', 'u', d₁, d₂, d₃, d₄]
  | long {c d₁ d₂ d₃ d₄ d₅ d₆ d₇ d₈ : Char}
      (h : Quote.scalar? [d₁, d₂, d₃, d₄, d₅, d₆, d₇, d₈] = some c) :
      Escaped c ['\\', 'U', d₁, d₂, d₃, d₄, d₅, d₆, d₇, d₈]

/-- A text that stands for a character between single quotes. -/
inductive Literal : Char → Text → Prop
  | mk {c : Char} (h : Quote.isPlain c = true) (hquote : c ≠ '\x27') : Literal c [c]

/-- A text that stands for characters, each of which is written as `C` says. -/
inductive WritesInside (C : Char → Text → Prop) : Text → Text → Prop
  | nil : WritesInside C [] []
  | cons {c : Char} {s t u : Text} (hc : C c t) (h : WritesInside C s u) :
      WritesInside C (c :: s) (t ++ u)

/-- The text writes the string on one line. -/
inductive WritesString : Text → Text → Prop
  | basic {s t : Text} (h : WritesInside Escaped s t) : WritesString s ('"' :: (t ++ ['"']))
  | literal {s t : Text} (h : WritesInside Literal s t) :
      WritesString s ('\x27' :: (t ++ ['\x27']))

section Line

variable {s t : Text} {c : Char}

theorem Escaped.exists_cons (h : Escaped c t) : ∃ d r, t = d :: r ∧ d ≠ '"' := by
  cases h with
  | plain _ hquote _ => exact ⟨_, _, rfl, hquote⟩
  | letter => exact ⟨_, _, rfl, by decide⟩
  | short => exact ⟨_, _, rfl, by decide⟩
  | long => exact ⟨_, _, rfl, by decide⟩

theorem Literal.exists_cons (h : Literal c t) : ∃ d r, t = d :: r ∧ d ≠ '\x27' := by
  cases h with
  | mk _ hquote => exact ⟨_, _, rfl, hquote⟩

theorem letter_ne {e : Char} (h : Quote.letter? e = some c) : e ≠ 'u' ∧ e ≠ 'U' := by
  constructor <;> rintro rfl <;> simp [Quote.letter?] at h

theorem basic_escaped (h : Escaped c t) (u : Text) :
    Quote.basic (t ++ u) = Quote.andThen (some c) (Quote.basic u) := by
  cases h with
  | plain h hquote hslash =>
    rw [List.singleton_append, Quote.basic] <;> simp_all
  | letter h =>
    have hu := letter_ne h
    rw [List.cons_append, List.singleton_append, Quote.basic, h] <;> simp_all
  | short h =>
    rw [← h]
    rfl
  | long h =>
    rw [← h]
    rfl

theorem literal_literal (h : Literal c t) (u : Text) :
    Quote.literal (t ++ u) = Quote.andThen (some c) (Quote.literal u) := by
  cases h with
  | mk h hquote =>
    rw [List.singleton_append, Quote.literal, if_pos h]
    simpa using hquote

/-- A reader that reads each character so and stops at the quote reads the characters. -/
theorem inside_append {C : Char → Text → Prop} {read : Reader Text} {quote : Char}
    (hchar : ∀ c t u, C c t → read (t ++ u) = Quote.andThen (some c) (read u))
    (hquote : ∀ rest, read (quote :: rest) = some ([], rest)) (h : WritesInside C s t)
    (rest : Text) : read (t ++ quote :: rest) = some (s, rest) := by
  induction h with
  | nil => exact hquote rest
  | cons hc h ih => rw [List.append_assoc, hchar _ _ _ hc, ih]; rfl

theorem readLine_append (h : WritesString s t) (rest : Text) :
    Quote.readLine (t ++ rest) = some (s, rest) := by
  cases h with
  | basic h =>
    rw [List.cons_append, List.append_assoc]
    exact inside_append (fun _ _ u hc => basic_escaped hc u) (fun _ => rfl) h rest
  | literal h =>
    rw [List.cons_append, List.append_assoc]
    exact inside_append (fun _ _ u hc => literal_literal hc u) (fun _ => rfl) h rest

end Line

/-! ## Every string can be written -/

/-- The eight digits of a number to base 16. -/
def digits8 (n : Nat) : Text :=
  [n >>> 28, n >>> 24, n >>> 20, n >>> 16, n >>> 12, n >>> 8, n >>> 4, n].map
    fun k => Nat.digitChar (k % 16)

theorem number?_digits8 {n : Nat} (h : n < 4294967296) : Hex.number? (digits8 n) = some n := by
  have hdigit (k : Nat) : Hex.digit? (Nat.digitChar (k % 16)) = some (k % 16) :=
    Hex.digit?_digitChar _ (Nat.mod_lt k (by decide))
  rw [Hex.number?, if_neg (by simp [digits8]), digits8]
  simp only [List.map_cons, List.map_nil, List.foldlM_cons, List.foldlM_nil, hdigit,
    Option.map_some, Option.bind_eq_bind, Option.bind_some, Option.pure_def]
  exact congrArg some (by omega)

theorem exists_escaped (c : Char) : ∃ t, Escaped c t := by
  have hlt : c.toNat < 4294967296 := c.val.toNat_lt
  have hvalid : c.toNat.isValidChar := c.valid
  have hread : Quote.scalar? (digits8 c.toNat) = some c := by
    rw [Quote.scalar?, number?_digits8 hlt, Option.bind_eq_bind, Option.bind_some, if_pos hvalid,
      Char.ofNat_toNat]
  exact ⟨_, .long hread⟩

theorem exists_writesString (s : Text) : ∃ t, WritesString s t := by
  have hinside : ∃ t, WritesInside Escaped s t := by
    induction s with
    | nil => exact ⟨[], .nil⟩
    | cons c s ih =>
      obtain ⟨t, ht⟩ := exists_escaped c
      obtain ⟨u, hu⟩ := ih
      exact ⟨t ++ u, .cons ht hu⟩
  obtain ⟨t, ht⟩ := hinside
  exact ⟨_, .basic ht⟩

/-! ## On several lines -/

/-- Blanks and line ends. -/
inductive BlankLines : Text → Prop
  | nil : BlankLines []
  | blank {c : Char} {t : Text} (hc : c = ' ' ∨ c = '\t') (h : BlankLines t) : BlankLines (c :: t)
  | line {e t : Text} (he : IsLineEnd e) (h : BlankLines t) : BlankLines (e ++ t)

/-- The first character, if there is one, is neither blank nor part of a line end. -/
def StartsSolid (t : Text) : Prop := ∀ c, t.head? = some c → c ∉ [' ', '\t', '\n', '\r']

/-- A text that stands for characters between three quotes each.  Characters are written as `C`
says, and line ends can be hidden if `hides` says so; up to two quotes may stand together, which
only a text that is `free` may start with. -/
inductive WritesLong (quote : Char) (C : Char → Text → Prop) (hides : Bool) :
    (free : Bool) → Text → Text → Prop
  | nil {free : Bool} : WritesLong quote C hides free [] []
  | char {free : Bool} {c : Char} {s t u : Text} (hc : C c t)
      (h : WritesLong quote C hides true s u) : WritesLong quote C hides free (c :: s) (t ++ u)
  | line {free : Bool} {s e u : Text} (he : IsLineEnd e) (h : WritesLong quote C hides true s u) :
      WritesLong quote C hides free ('\n' :: s) (e ++ u)
  | hidden {free : Bool} {s b e g u : Text} (hhides : hides = true) (hb : IsBlank b)
      (he : IsLineEnd e) (hg : BlankLines g) (hu : StartsSolid u)
      (h : WritesLong quote C hides true s u) :
      WritesLong quote C hides free s ('\\' :: (b ++ (e ++ (g ++ u))))
  | quotes {n : Nat} {s u : Text} (hn : n ≤ 2) (h : WritesLong quote C hides false s u) :
      WritesLong quote C hides true (List.replicate n quote ++ s) (List.replicate n quote ++ u)

/-- How a reader goes on between three quotes each. -/
structure LongReader (quote : Char) (C : Char → Text → Prop) (hides : Bool) (read : Reader Text) :
    Prop where
  solid : quote ∉ [' ', '\t', '\n', '\r', '\\']
  char_ne : ∀ c t, C c t → ∃ d r, t = d :: r ∧ d ≠ quote
  close : ∀ rest, read (quote :: quote :: quote :: rest) = some (Quote.extraQuotes quote rest)
  quote : ∀ u, (∀ r, u ≠ quote :: quote :: r) →
    read (quote :: u) = Quote.andThen (some quote) (read u)
  char : ∀ c t u, C c t → read (t ++ u) = Quote.andThen (some c) (read u)
  line : ∀ e u, IsLineEnd e → read (e ++ u) = Quote.andThen (some '\n') (read u)
  hidden : hides = true → ∀ b e g u, IsBlank b → IsLineEnd e → BlankLines g → StartsSolid u →
    read ('\\' :: (b ++ (e ++ (g ++ u)))) = read u

section Long

variable {quote : Char} {C : Char → Text → Prop} {hides : Bool} {read : Reader Text} {s t : Text}

theorem extraQuotes_replicate {n : Nat} (hn : n ≤ 2) {rest : Text}
    (h : rest.head? ≠ some quote) :
    Quote.extraQuotes quote (List.replicate n quote ++ rest) = (List.replicate n quote, rest) := by
  have hne (a : Char) (r : Text) (hr : rest = a :: r) : (a == quote) = false := by
    rw [hr] at h
    simpa using h
  match n with
  | 0 =>
    match rest with
    | [] => rfl
    | [a] => simp [Quote.extraQuotes, hne a [] rfl]
    | a :: b :: r => simp [Quote.extraQuotes, hne a (b :: r) rfl]
  | 1 =>
    match rest with
    | [] => simp [Quote.extraQuotes]
    | a :: r => simp [Quote.extraQuotes, hne a r rfl]
  | 2 => simp [Quote.extraQuotes]

namespace LongReader

variable (hread : LongReader quote C hides read)

include hread

/-- What may not start with a quote does not. -/
theorem head_ne (h : WritesLong quote C hides false s t) :
    (s = [] ∧ t = []) ∨ ∃ d r, t = d :: r ∧ d ≠ quote := by
  have hsolid := hread.solid
  cases h with
  | nil => exact .inl ⟨rfl, rfl⟩
  | char hc h =>
    obtain ⟨d, r, rfl, hd⟩ := hread.char_ne _ _ hc
    exact .inr ⟨d, _, rfl, hd⟩
  | line he h =>
    rcases he with rfl | rfl <;> refine .inr ⟨_, _, rfl, ?_⟩ <;> rintro rfl <;> simp at hsolid
  | hidden =>
    refine .inr ⟨_, _, rfl, ?_⟩
    rintro rfl
    simp at hsolid

/-- Quotes that no further one follows are read like any other character. -/
theorem quotes {n : Nat} (hn : n ≤ 2) {d : Char} (hd : d ≠ quote) (u : Text) {r : Text}
    (h : read (d :: u) = some (s, r)) :
    read (List.replicate n quote ++ d :: u) = some (List.replicate n quote ++ s, r) := by
  have hone : read (quote :: d :: u) = some (quote :: s, r) := by
    rw [hread.quote _ (by rintro r heq; exact hd (List.cons.inj heq).1), h]
    rfl
  match n with
  | 0 => exact h
  | 1 => exact hone
  | 2 =>
    change read (quote :: quote :: d :: u) = some (quote :: quote :: s, r)
    rw [hread.quote _ (by
      rintro r heq
      exact hd (List.cons.inj (List.cons.inj heq).2).1), hone]
    rfl

/-- What is written between three quotes is read, where no quote follows. -/
theorem append {free : Bool} (h : WritesLong quote C hides free s t) {rest : Text}
    (hrest : rest.head? ≠ some quote) :
    read (t ++ quote :: quote :: quote :: rest) = some (s, rest) := by
  induction h with
  | nil =>
    rw [List.nil_append, hread.close]
    exact congrArg some (extraQuotes_replicate (n := 0) (by decide) hrest)
  | char hc h ih =>
    rw [List.append_assoc, hread.char _ _ _ hc, ih]
    rfl
  | line he h ih =>
    rw [List.append_assoc, hread.line _ _ he, ih]
    rfl
  | @hidden free s b e g u hhides hb he hg hu h ih =>
    simp only [List.append_assoc, List.cons_append]
    rw [hread.hidden hhides _ _ _ _ hb he hg, ih]
    intro c hc
    cases u with
    | nil =>
      cases hc
      have hsolid := hread.solid
      simp_all
    | cons d u => exact hu c hc
  | @quotes n s u hn h ih =>
    rcases hread.head_ne h with ⟨rfl, rfl⟩ | ⟨d, r, rfl, hd⟩
    · have hmoved : List.replicate n quote ++ [] ++ quote :: quote :: quote :: rest =
          quote :: quote :: quote :: (List.replicate n quote ++ rest) := by
        match n with
        | 0 => rfl
        | 1 => rfl
        | 2 => rfl
      rw [hmoved, hread.close, extraQuotes_replicate hn hrest, List.append_nil]
    · rw [List.append_assoc]
      exact hread.quotes hn hd _ ih

end LongReader

end Long

/-! ### Between double quotes -/

theorem skipBlankLines_append {g : Text} (hg : BlankLines g) {u : Text} (hu : StartsSolid u) :
    Quote.skipBlankLines (g ++ u) = u := by
  induction hg with
  | nil =>
    cases u with
    | nil => rfl
    | cons c u =>
      have hc := hu c rfl
      rw [List.nil_append, Quote.skipBlankLines] <;> simp_all
  | @blank c t hc h ih =>
    rcases hc with rfl | rfl <;> simpa [Quote.skipBlankLines] using ih
  | @line e t he h ih =>
    rcases he with rfl | rfl <;> simpa [Quote.skipBlankLines] using ih

theorem hiddenLineEnd?_append {b e g u : Text} (hb : IsBlank b) (he : IsLineEnd e)
    (hg : BlankLines g) (hu : StartsSolid u) :
    Quote.hiddenLineEnd? (b ++ (e ++ (g ++ u))) = some u := by
  have hskip (x : Char) (hx : x ≠ ' ' ∧ x ≠ '\t') (t : Text) :
      (b ++ x :: t).dropWhile (fun c => c == ' ' || c == '\t') = x :: t := by
    rw [List.dropWhile_append_of_pos (fun c hc => by simpa using hb c hc),
      List.dropWhile_cons_of_neg (by simpa using hx)]
  unfold Quote.hiddenLineEnd?
  rcases he with rfl | rfl
  · rw [List.singleton_append, hskip _ (by decide)]
    exact congrArg some (skipBlankLines_append hg hu)
  · rw [List.cons_append, List.singleton_append, hskip _ (by decide)]
    exact congrArg some (skipBlankLines_append hg hu)

theorem multiBasic_cons {c : Char} {u : Text} (h : (Quote.isPlain c || c == '\n') = true)
    (hslash : c ≠ '\\') (hquote : c = '"' → ∀ r, u ≠ '"' :: '"' :: r) :
    Quote.multiBasic (c :: u) = Quote.andThen (some c) (Quote.multiBasic u) := by
  rw [Quote.multiBasic, if_pos h]
  · exact fun r hc hr => hquote hc r hr
  · exact fun _ _ _ _ _ hc => absurd hc hslash
  · exact fun _ _ _ _ _ _ _ _ _ hc => absurd hc hslash
  · exact hslash
  · rintro r rfl
    exact absurd h (by decide)

/-- Behind a backslash, what is read next depends on whether it hides a line end. -/
theorem multiBasic_slash {e : Char} {u : Text} (he : e ≠ 'u' ∧ e ≠ 'U') :
    Quote.multiBasic ('\\' :: e :: u) =
      match Quote.hiddenLineEnd? (e :: u) with
      | some r => Quote.multiBasic r
      | none => Quote.andThen (Quote.letter? e) (Quote.multiBasic u) := by
  rw [Quote.multiBasic]
  · split <;> simp_all
  · exact fun _ _ _ _ _ heq => he.1 (List.cons.inj heq).1
  · exact fun _ _ _ _ _ _ _ _ _ heq => he.2 (List.cons.inj heq).1

theorem hiddenLineEnd?_letter {c e : Char} (h : Quote.letter? e = some c) (u : Text) :
    Quote.hiddenLineEnd? (e :: u) = none := by
  have hne (d : Char) (hd : Quote.letter? d = none) : e ≠ d := by
    rintro rfl
    rw [hd] at h
    cases h
  unfold Quote.hiddenLineEnd?
  rw [List.dropWhile_cons_of_neg (by simp [hne ' ' (by decide), hne '\t' (by decide)])]
  split
  · rename_i heq
    exact absurd (List.cons.inj heq).1 (hne '\n' (by decide))
  · rename_i heq
    exact absurd (List.cons.inj heq).1 (hne '\r' (by decide))
  · rfl

theorem longReader_basic : LongReader '"' Escaped true Quote.multiBasic where
  solid := by decide
  char_ne _ _ h := h.exists_cons
  close rest := by rw [Quote.multiBasic]
  quote u hu := multiBasic_cons (by decide) (by decide) fun _ => hu
  char c t u h := by
    cases h with
    | plain h hquote hslash =>
      exact multiBasic_cons (by simp [h]) hslash fun hc => absurd hc hquote
    | letter h =>
      rw [List.cons_append, List.singleton_append, multiBasic_slash (letter_ne h),
        hiddenLineEnd?_letter h, h]
    | short h =>
      rw [← h]
      exact Quote.multiBasic.eq_2 ..
    | long h =>
      rw [← h]
      exact Quote.multiBasic.eq_3 ..
  line e u he := by
    rcases he with rfl | rfl
    · exact multiBasic_cons (by decide) (by decide) fun hc => absurd hc (by decide)
    · exact Quote.multiBasic.eq_5 ..
  hidden _ b e g u hb he hg hu := by
    have hstart : ∃ d r, b ++ (e ++ (g ++ u)) = d :: r ∧ d ≠ 'u' ∧ d ≠ 'U' := by
      cases b with
      | nil => rcases he with rfl | rfl <;> exact ⟨_, _, rfl, by decide⟩
      | cons d b => rcases hb d (by simp) with rfl | rfl <;> exact ⟨_, _, rfl, by decide⟩
    have hend := hiddenLineEnd?_append hb he hg hu
    obtain ⟨d, r, hd, hne⟩ := hstart
    rw [hd] at hend ⊢
    rw [multiBasic_slash hne, hend]

/-! ### Between single quotes -/

theorem multiLiteral_cons {c : Char} {u : Text} (h : (Quote.isPlain c || c == '\n') = true)
    (hquote : c = '\x27' → ∀ r, u ≠ '\x27' :: '\x27' :: r) :
    Quote.multiLiteral (c :: u) = Quote.andThen (some c) (Quote.multiLiteral u) := by
  rw [Quote.multiLiteral, if_pos h]
  · exact fun r hc hr => hquote hc r hr
  · rintro r rfl
    exact absurd h (by decide)

theorem longReader_literal : LongReader '\x27' Literal false Quote.multiLiteral where
  solid := by decide
  char_ne _ _ h := h.exists_cons
  close rest := by rw [Quote.multiLiteral]
  quote u hu := multiLiteral_cons (by decide) fun _ => hu
  char c t u h := by
    cases h with
    | mk h hquote => exact multiLiteral_cons (by simp [h]) fun hc => absurd hc hquote
  line e u he := by
    rcases he with rfl | rfl
    · exact multiLiteral_cons (by decide) fun hc => absurd hc (by decide)
    · exact Quote.multiLiteral.eq_2 ..
  hidden h := by cases h

/-! ## Strings -/

/-- What may stand behind the three opening quotes: a line end that does not count, or nothing, and
then none follows. -/
def OpensLong (e t : Text) : Prop :=
  IsLineEnd e ∨ e = [] ∧ ∀ c, t.head? = some c → c ≠ '\n' ∧ c ≠ '\r'

/-- The text writes the string. -/
inductive WritesText : Text → Text → Prop
  | line {s t : Text} (h : WritesString s t) : WritesText s t
  | basic {s e t : Text} (he : OpensLong e t) (h : WritesLong '"' Escaped true true s t) :
      WritesText s ('"' :: '"' :: '"' :: (e ++ (t ++ ['"', '"', '"'])))
  | literal {s e t : Text} (he : OpensLong e t) (h : WritesLong '\x27' Literal false true s t) :
      WritesText s ('\x27' :: '\x27' :: '\x27' :: (e ++ (t ++ ['\x27', '\x27', '\x27'])))

theorem dropLineEnd_append {e t : Text} (he : OpensLong e t) {quote : Char}
    (hquote : quote ≠ '\n' ∧ quote ≠ '\r') (rest : Text) :
    Quote.dropLineEnd (e ++ (t ++ quote :: rest)) = t ++ quote :: rest := by
  rcases he with (rfl | rfl) | ⟨rfl, ht⟩
  · rfl
  · rfl
  · have hhead : ∃ c r, t ++ quote :: rest = c :: r ∧ c ≠ '\n' ∧ c ≠ '\r' := by
      cases t with
      | nil => exact ⟨_, _, rfl, hquote⟩
      | cons c t => exact ⟨_, _, rfl, ht c rfl⟩
    obtain ⟨c, r, heq, hc⟩ := hhead
    rw [List.nil_append, heq, Quote.dropLineEnd] <;> simp_all

/-- Where no quote follows, a string of one line does not look like one of several lines. -/
theorem read_line {s t : Text} (h : WritesString s t) {rest : Text}
    (hrest : rest.head? ≠ some '"' ∧ rest.head? ≠ some '\x27') :
    Quote.read (t ++ rest) = Quote.readLine (t ++ rest) := by
  -- no quote opens the string a second time, and none stands behind an empty one
  have hsecond {quote : Char} {C : Char → Text → Prop} {s t r : Text}
      (hne : ∀ c u, C c u → ∃ d v, u = d :: v ∧ d ≠ quote) (h : WritesInside C s t)
      (hrest : rest.head? ≠ some quote)
      (heq : t ++ [quote] ++ rest = quote :: quote :: r) : False := by
    cases h with
    | nil =>
      rw [List.nil_append, List.singleton_append] at heq
      exact hrest (by rw [(List.cons.inj heq).2]; rfl)
    | cons hc h =>
      obtain ⟨d, v, rfl, hd⟩ := hne _ _ hc
      exact hd (List.cons.inj heq).1
  unfold Quote.read
  split
  · rename_i r heq
    cases h with
    | literal => cases heq
    | basic h =>
      exact (hsecond (fun _ _ hc => hc.exists_cons) h hrest.1 (List.cons.inj heq).2).elim
  · rename_i r heq
    cases h with
    | basic => cases heq
    | literal h =>
      exact (hsecond (fun _ _ hc => hc.exists_cons) h hrest.2 (List.cons.inj heq).2).elim
  · rfl

/-- A string is read as it was written, where no quote follows. -/
theorem read_append {s t : Text} (h : WritesText s t) {rest : Text}
    (hrest : rest.head? ≠ some '"' ∧ rest.head? ≠ some '\x27') :
    Quote.read (t ++ rest) = some (s, rest) := by
  cases h with
  | line h => rw [read_line h hrest, readLine_append h]
  | basic he h =>
    simp only [List.cons_append, List.append_assoc]
    rw [Quote.read, List.nil_append, dropLineEnd_append he (by decide)]
    exact longReader_basic.append h hrest.1
  | literal he h =>
    simp only [List.cons_append, List.append_assoc]
    rw [Quote.read, List.nil_append, dropLineEnd_append he (by decide)]
    exact longReader_literal.append h hrest.2

theorem WritesText.exists_cons {s t : Text} (h : WritesText s t) :
    ∃ c r, t = c :: r ∧ (c = '"' ∨ c = '\x27') := by
  cases h with
  | line h =>
    cases h with
    | basic => exact ⟨_, _, rfl, .inl rfl⟩
    | literal => exact ⟨_, _, rfl, .inr rfl⟩
  | basic => exact ⟨_, _, rfl, .inl rfl⟩
  | literal => exact ⟨_, _, rfl, .inr rfl⟩

end CredentialGateway.Toml
