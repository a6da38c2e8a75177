import CredentialGateway.Proofs.Pattern

/-!
# Which texts are patterns

A text writes a pattern if its braces do: a doubled brace stands for one, and a brace that stands by
itself opens a name and is closed at the end of the segment.  The name is not empty, does not start
with a star, and holds no star and no slash behind its first character.  Beyond that, a pattern
starts with a slash, has no segment of the older notation, and has at most 25 captures.

    piecesOf? (unescape t) gives pieces with n captures ↔ Writes t n             (writes_iff)
    parse? t gives a pattern ↔ IsPattern t                                (isSome_parse?_iff)
-/

namespace CredentialGateway.PathPattern

/-- What may stand behind the first character of a name. -/
inductive NameTail : Text → Prop
  | nil : NameTail []
  | char {c : Char} {t : Text} (hbrace : c ≠ '\x7d') (hstar : c ≠ '*') (hslash : c ≠ '/')
      (h : NameTail t) : NameTail (c :: t)
  | doubled {t : Text} (h : NameTail t) : NameTail ('\x7d' :: '\x7d' :: t)

/-- One of the two braces. -/
def IsBrace (c : Char) : Prop := c = '\x7b' ∨ c = '\x7d'

/-- The text writes pieces among which there are `n` captures. -/
inductive Writes : Text → Nat → Prop
  | nil : Writes [] 0
  | char {c : Char} {t : Text} {n : Nat} (hc : ¬ IsBrace c) (h : Writes t n) : Writes (c :: t) n
  | doubled {c : Char} {t : Text} {n : Nat} (hc : IsBrace c) (h : Writes t n) :
      Writes (c :: c :: t) n
  | capture {c : Char} {name t : Text} {n : Nat} (hc : ¬ IsBrace c) (hstar : c ≠ '*')
      (hname : NameTail name) (ht : t = [] ∨ t.head? = some '/') (h : Writes t n) :
      Writes ('\x7b' :: c :: (name ++ '\x7d' :: t)) (n + 1)

/-- The text is a pattern for the start of a path. -/
structure IsPattern (t : Text) : Prop where
  slash : t.head? = some '/'
  new : ∀ s ∈ t.splitOn '/', s.head? ≠ some ':' ∧ s.head? ≠ some '*'
  writes : ∃ n ≤ mostCaptures, Writes t n

/-! ## Doubled braces -/

theorem unescape_doubled {c : Char} (hc : IsBrace c) (t : Text) :
    unescape (c :: c :: t) = (c, true) :: unescape t := by
  rcases hc with rfl | rfl <;> rfl

theorem unescape_single {c : Char} {t : Text} (h : IsBrace c → t.head? ≠ some c) :
    unescape (c :: t) = (c, false) :: unescape t := by
  rw [unescape]
  · rintro r rfl rfl
    exact h (.inl rfl) rfl
  · rintro r rfl rfl
    exact h (.inr rfl) rfl

/-- What stands in front after the doubled braces have been marked, and where it comes from. -/
theorem unescape_eq_cons {t : Text} {c : Char} {marked : Bool} {cs : List (Char × Bool)}
    (h : unescape t = (c, marked) :: cs) :
    marked = true ∧ IsBrace c ∧ (∃ u, t = c :: c :: u ∧ cs = unescape u) ∨
    marked = false ∧ ∃ u, t = c :: u ∧ cs = unescape u ∧ (IsBrace c → u.head? ≠ some c) := by
  cases t with
  | nil => cases h
  | cons d t =>
    by_cases hd : IsBrace d ∧ t.head? = some d
    · obtain ⟨hbrace, hhead⟩ := hd
      obtain ⟨u, rfl⟩ := List.head?_eq_some_iff.1 hhead
      rw [unescape_doubled hbrace] at h
      cases h
      exact .inl ⟨rfl, hbrace, u, rfl, rfl⟩
    · have hsingle : IsBrace d → t.head? ≠ some d := fun hbrace hhead => hd ⟨hbrace, hhead⟩
      rw [unescape_single hsingle] at h
      cases h
      exact .inr ⟨rfl, t, rfl, rfl, hsingle⟩

theorem unescape_eq_nil {t : Text} (h : unescape t = []) : t = [] := by
  fun_induction unescape t <;> simp_all

/-- A segment ends where the text or the segment does. -/
theorem head_unescape_iff {t : Text} :
    (unescape t).head?.all (· == ('/', false)) = true ↔ t = [] ∨ t.head? = some '/' := by
  cases hu : unescape t with
  | nil => simp [unescape_eq_nil hu]
  | cons p cs =>
    obtain ⟨c, marked⟩ := p
    rcases unescape_eq_cons hu with ⟨rfl, hc, u, rfl, -⟩ | ⟨rfl, u, rfl, -⟩
    · rcases hc with rfl | rfl <;> simp
    · simp

/-! ## Names -/

/-- An opening brace in a name is a character like others, doubled or not. -/
theorem afterName_unescape_cons {c : Char} (hbrace : c ≠ '\x7d') (hstar : c ≠ '*')
    (hslash : c ≠ '/') (t : Text) :
    afterName (unescape (c :: t)) = afterName (unescape t) := by
  have hpass (marked : Bool) (cs : List (Char × Bool)) :
      afterName ((c, marked) :: cs) = afterName cs := by
    simp [afterName, hbrace, hstar, hslash]
  induction t with
  | nil =>
    rw [unescape_single (by simp), hpass]
  | cons d t ih =>
    by_cases hd : IsBrace c ∧ d = c
    · obtain ⟨hc, rfl⟩ := hd
      rw [ih, unescape_doubled hc, hpass]
    · rw [unescape_single fun hc hhead => hd ⟨hc, by simpa using hhead⟩, hpass]

theorem afterName_of_nameTail {name t : Text} (h : NameTail name)
    (ht : t = [] ∨ t.head? = some '/') :
    afterName (unescape (name ++ '\x7d' :: t)) = some (unescape t) := by
  induction h with
  | nil =>
    have hend : t.head? ≠ some '\x7d' := by rcases ht with rfl | ht <;> simp [*]
    rw [List.nil_append, unescape_single fun _ => hend]
    rfl
  | char hbrace hstar hslash h ih =>
    rw [List.cons_append, afterName_unescape_cons hbrace hstar hslash, ih]
  | doubled h ih =>
    rw [List.cons_append, List.cons_append, unescape_doubled (.inr rfl)]
    exact ih

theorem nameTail_of_afterName {s : Text} {cs : List (Char × Bool)}
    (h : afterName (unescape s) = some cs) :
    ∃ name t, NameTail name ∧ s = name ++ '\x7d' :: t ∧ cs = unescape t := by
  fun_induction unescape s with
  | case1 rest ih =>
    obtain ⟨name, t, hname, rfl, hcs⟩ := ih h
    have hopen := hname.char (c := '\x7b') (by decide) (by decide) (by decide)
    exact ⟨_, t, hopen.char (c := '\x7b') (by decide) (by decide) (by decide), rfl, hcs⟩
  | case2 rest ih =>
    obtain ⟨name, t, hname, rfl, hcs⟩ := ih h
    exact ⟨_, t, hname.doubled, rfl, hcs⟩
  | case3 c rest _ _ ih =>
    rw [afterName] at h
    split at h
    · rename_i hclose
      obtain rfl : c = '\x7d' := by simpa using hclose
      cases h
      exact ⟨[], rest, .nil, rfl, rfl⟩
    · rename_i hclose
      split at h
      · cases h
      · rename_i hother
        simp only [beq_iff_eq, Bool.or_eq_true, not_or] at hclose hother
        obtain ⟨name, t, hname, rfl, hcs⟩ := ih h
        exact ⟨_, t, hname.char hclose hother.1 hother.2, rfl, hcs⟩
  | case4 => cases h

/-! ## Pieces -/

theorem piecesOf?_marked (c : Char) (cs : List (Char × Bool)) :
    piecesOf? ((c, true) :: cs) = (piecesOf? cs).map (.exact c :: ·) := by
  rw [piecesOf?.eq_def]
  simp

theorem piecesOf?_char {c : Char} (hc : ¬ IsBrace c) (cs : List (Char × Bool)) :
    piecesOf? ((c, false) :: cs) = (piecesOf? cs).map (.exact c :: ·) := by
  rw [IsBrace, not_or] at hc
  rw [piecesOf?.eq_def]
  simp [hc.1, hc.2]

theorem piecesOf?_capture {c : Char} {cs rest : List (Char × Bool)} (hbrace : c ≠ '\x7d')
    (hstar : c ≠ '*') (hrest : afterName cs = some rest)
    (hslash : rest.head?.all (· == ('/', false)) = true) :
    piecesOf? (('\x7b', false) :: (c, false) :: cs) = (piecesOf? rest).map (.capture :: ·) := by
  rw [piecesOf?.eq_def]
  simp only [Bool.false_eq_true, if_false]
  rw [if_neg (by decide), if_pos (by decide), if_neg (by simp [hbrace, hstar])]
  split
  · rename_i hnone
    rw [hrest] at hnone
    cases hnone
  · rename_i rest' hrest'
    rw [hrest] at hrest'
    cases hrest'
    rw [if_pos hslash]

/-- What the grammar describes is read as pieces. -/
theorem piecesOf?_of_writes {t : Text} {n : Nat} (h : Writes t n) :
    ∃ pieces, piecesOf? (unescape t) = some pieces ∧ pieces.count .capture = n := by
  induction h with
  | nil => exact ⟨[], by simp [unescape, piecesOf?], rfl⟩
  | @char c t n hc h ih =>
    obtain ⟨pieces, hp, hn⟩ := ih
    rw [unescape_single fun hb => absurd hb hc, piecesOf?_char hc, hp]
    exact ⟨_, rfl, by simpa using hn⟩
  | @doubled c t n hc h ih =>
    obtain ⟨pieces, hp, hn⟩ := ih
    rw [unescape_doubled hc, piecesOf?_marked, hp]
    exact ⟨_, rfl, by simpa using hn⟩
  | @capture c name t n hc hstar hname ht h ih =>
    obtain ⟨pieces, hp, hn⟩ := ih
    have hopen : (c :: (name ++ '\x7d' :: t)).head? ≠ some '\x7b' := fun hb =>
      hc (.inl (Option.some.inj hb))
    rw [unescape_single fun _ => hopen,
      unescape_single fun hb => absurd hb hc,
      piecesOf?_capture (fun hb => hc (.inr hb)) hstar (afterName_of_nameTail hname ht)
        (head_unescape_iff.2 ht), hp]
    exact ⟨_, rfl, by simpa using hn⟩

/-- What is read as pieces the grammar describes. -/
theorem writes_of_piecesOf? {cs : List (Char × Bool)} {pieces : List PatternPiece} {t : Text}
    (ht : unescape t = cs) (h : piecesOf? cs = some pieces) :
    Writes t (pieces.count .capture) := by
  fun_induction piecesOf? cs generalizing pieces t with
  | case1 =>
    cases h
    rw [unescape_eq_nil ht]
    exact .nil
  | case2 c rest ih =>
    obtain ⟨ps, hps, rfl⟩ := Option.map_eq_some_iff.1 h
    rcases unescape_eq_cons ht with ⟨-, hc, u, rfl, hu⟩ | ⟨hm, -⟩
    · simpa using (ih hu.symm hps).doubled hc
    · cases hm
  | case3 => cases h
  | case4 => cases h
  | case5 => cases h
  | case6 => cases h
  | case7 c marked hmarked hclose hopen first named name hfirst rest hrest hslash ih =>
    obtain ⟨ps, hps, rfl⟩ := Option.map_eq_some_iff.1 h
    obtain rfl : c = '\x7b' := by simpa using hopen
    simp only [Bool.or_eq_true, beq_iff_eq, not_or] at hfirst
    rcases unescape_eq_cons ht with ⟨hm, -⟩ | ⟨-, u, rfl, hu, hsingle⟩
    · exact absurd hm hmarked
    -- the first character of the name is not doubled: it would be the brace that opens the name
    rcases unescape_eq_cons hu.symm with ⟨-, hc, v, rfl, -⟩ | ⟨-, v, rfl, hv, -⟩
    · rcases hc with rfl | rfl
      · exact absurd rfl (hsingle (.inl rfl))
      · exact absurd rfl hfirst.1
    rw [hv] at hrest
    obtain ⟨tail, t, htail, rfl, hcs⟩ := nameTail_of_afterName hrest
    have hbrace : ¬ IsBrace first := by
      rintro (rfl | rfl)
      · exact hsingle (.inl rfl) rfl
      · exact hfirst.1 rfl
    rw [hcs, head_unescape_iff] at hslash
    simpa using (ih hcs.symm hps).capture hbrace hfirst.2 htail hslash
  | case8 => cases h
  | case9 c marked rest hmarked hclose hopen ih =>
    obtain ⟨ps, hps, rfl⟩ := Option.map_eq_some_iff.1 h
    have hc : ¬ IsBrace c := by
      rintro (rfl | rfl)
      · exact hopen rfl
      · exact hclose rfl
    rcases unescape_eq_cons ht with ⟨hm, -⟩ | ⟨-, u, rfl, hu, -⟩
    · exact absurd hm hmarked
    · simpa using (ih hu.symm hps).char hc

theorem writes_iff {t : Text} {n : Nat} : Writes t n ↔
    ∃ pieces, piecesOf? (unescape t) = some pieces ∧ pieces.count .capture = n := by
  constructor
  · exact piecesOf?_of_writes
  · rintro ⟨pieces, hp, rfl⟩
    exact writes_of_piecesOf? rfl hp

/-! ## Patterns -/

theorem any_isOldCapture_iff {t : Text} : (t.splitOn '/').any isOldCapture = false ↔
    ∀ s ∈ t.splitOn '/', s.head? ≠ some ':' ∧ s.head? ≠ some '*' := by
  simp [isOldCapture]

/-- A text is read as a pattern exactly if it is one. -/
theorem isSome_parse?_iff {t : Text} : (parse? t).isSome = true ↔ IsPattern t := by
  rw [parse?]
  constructor
  · intro h
    split at h
    · cases h
    · rename_i hfront
      simp only [Bool.or_eq_true, decide_eq_true_eq, not_or, not_not, Bool.not_eq_true] at hfront
      obtain ⟨p, hp⟩ := Option.isSome_iff_exists.1 h
      obtain ⟨pieces, hpieces, hcount⟩ := Option.bind_eq_some_iff.1 hp
      split at hcount
      · rename_i hmost
        exact ⟨hfront.1, any_isOldCapture_iff.1 hfront.2, _, hmost,
          writes_iff.2 ⟨pieces, hpieces, rfl⟩⟩
      · cases hcount
  · rintro ⟨hslash, hnew, n, hmost, hwrites⟩
    obtain ⟨pieces, hpieces, rfl⟩ := writes_iff.1 hwrites
    rw [if_neg (by simp [hslash, any_isOldCapture_iff.2 hnew]), hpieces]
    simp [hmost]

/-- Without braces only the older notation stands in the way. -/
theorem isPattern_of_isLiteral {t : Text} (hslash : t.head? = some '/') (hl : IsLiteral t)
    (hnew : ∀ s ∈ t.splitOn '/', s.head? ≠ some ':' ∧ s.head? ≠ some '*') : IsPattern t := by
  refine ⟨hslash, hnew, 0, by decide, writes_iff.2 ⟨t.map .exact, ?_, ?_⟩⟩
  · rw [unescape_of_isLiteral hl, piecesOf?_of_isLiteral hl]
  · rw [List.count_eq_zero]
    simp

end CredentialGateway.PathPattern
