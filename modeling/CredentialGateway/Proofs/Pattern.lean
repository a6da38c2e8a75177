import CredentialGateway.PathPattern
import CredentialGateway.Proofs.DotSegment
import CredentialGateway.Proofs.PathSegments

/-!
# What a pattern serves

A pattern without a brace has no captures and stands for itself, so it serves a path exactly if the
path is the pattern or goes on with a slash behind it.

A pattern with a brace serves a path that is shorter than itself, so it does not occur there.  Each
capture takes one letter in it; it has no dot segments if any path that is served has none.

    parse? t = some p, no brace in t → p.pieces = t.map .exact            (pieces_of_isLiteral)
    parse? t = some p, a brace in t → the filled pieces are shorter than t      (length_fill_lt)
-/

namespace CredentialGateway.PathPattern

/-! ## Patterns without braces -/

/-- Every character of the pattern stands for itself. -/
def IsLiteral (t : Text) : Prop := '\x7b' ∉ t ∧ '\x7d' ∉ t

instance (t : Text) : Decidable (IsLiteral t) := inferInstanceAs (Decidable (_ ∧ _))

theorem unescape_of_isLiteral {t : Text} (h : IsLiteral t) : unescape t = t.map (·, false) := by
  fun_induction unescape t with
  | case1 => simp [IsLiteral] at h
  | case2 => simp [IsLiteral] at h
  | case3 c t _ _ ih =>
    rw [List.map_cons, ih ⟨fun hm => h.1 (by simp [hm]), fun hm => h.2 (by simp [hm])⟩]
  | case4 => rfl

theorem piecesOf?_of_isLiteral {t : Text} (h : IsLiteral t) :
    piecesOf? (t.map (·, false)) = some (t.map .exact) := by
  induction t with
  | nil => simp [piecesOf?]
  | cons c t ih =>
    simp only [IsLiteral, List.mem_cons, not_or] at h
    have hopen : (c == '\x7b') = false := by simpa using Ne.symm h.1.1
    have hclose : (c == '\x7d') = false := by simpa using Ne.symm h.2.1
    rw [List.map_cons, piecesOf?.eq_def]
    simp [hopen, hclose, ih ⟨h.1.2, h.2.2⟩]

theorem parse?_eq_some {t : Text} {p : PathPattern} (h : parse? t = some p) :
    piecesOf? (unescape t) = some p.pieces := by
  simp only [parse?] at h
  split at h
  · cases h
  · obtain ⟨pieces, hp, h⟩ := Option.bind_eq_some_iff.1 h
    split at h
    · cases h
      exact hp
    · cases h

/-- The pieces of a pattern without braces. -/
theorem pieces_of_isLiteral {t : Text} {p : PathPattern} (h : parse? t = some p)
    (hl : IsLiteral t) : p.pieces = t.map .exact := by
  have hp := parse?_eq_some h
  rw [unescape_of_isLiteral hl, piecesOf?_of_isLiteral hl, Option.some.injEq] at hp
  exact hp.symm

theorem serves_of_isLiteral {t : Text} {p : PathPattern} (h : parse? t = some p)
    (hl : IsLiteral t) (path : Text) :
    p.serves path = true ↔ path = t ∨ (t ++ ['/']) <+: path := by
  rw [← serves_literal t path, ← pieces_of_isLiteral h hl]

/-! ## Pieces -/

/-- A capture takes the rest of its segment. -/
def CapturesEnd : List PatternPiece → Prop
  | [] => True
  | .exact _ :: pieces => CapturesEnd pieces
  | .capture :: pieces => (pieces = [] ∨ ∃ ps, pieces = .exact '/' :: ps) ∧ CapturesEnd pieces

/-- What is read as pieces: captures end their segments, a slash stands for itself, and what is as
long as before had no braces. -/
structure ReadAs (cs : List (Char × Bool)) (pieces : List PatternPiece) : Prop where
  capturesEnd : CapturesEnd pieces
  slash : ∀ rest, cs = ('/', false) :: rest → ∃ ps, pieces = .exact '/' :: ps
  nil : cs = [] → pieces = []
  length : pieces.length ≤ cs.length
  brace : pieces.length = cs.length → ∀ c, (c, false) ∈ cs → c ≠ '{' ∧ c ≠ '}'

theorem readAs_of_piecesOf? {cs : List (Char × Bool)} {pieces : List PatternPiece}
    (h : piecesOf? cs = some pieces) : ReadAs cs pieces := by
  -- a character that stands for itself is put in front of what the rest is read as
  have exact_ {c : Char} {marked : Bool} {rest : List (Char × Bool)} {ps : List PatternPiece}
      (hrest : ReadAs rest ps) (hc : marked = true ∨ c ≠ '\x7b' ∧ c ≠ '\x7d') :
      ReadAs ((c, marked) :: rest) (.exact c :: ps) := by
    refine ⟨hrest.capturesEnd, ?_, by simp, by simpa using hrest.length, ?_⟩
    · intro _ h
      cases h
      exact ⟨ps, rfl⟩
    · intro hl d hd
      rcases List.mem_cons.1 hd with hd | hd
      · cases hd
        exact hc.resolve_left (by simp)
      · exact hrest.brace (by simpa using hl) d hd
  fun_induction piecesOf? cs generalizing pieces with
  | case1 =>
    cases h
    exact ⟨trivial, by simp, by simp, by simp, by simp⟩
  | case2 c rest ih =>
    obtain ⟨ps, hps, rfl⟩ := Option.map_eq_some_iff.1 h
    exact exact_ (ih hps) (.inl rfl)
  | case3 => cases h
  | case4 => cases h
  | case5 => cases h
  | case6 => cases h
  | case7 c marked hmarked hclose hopen first named name hfirst rest hrest hslash ih =>
    obtain ⟨ps, hps, rfl⟩ := Option.map_eq_some_iff.1 h
    have hread := ih hps
    have hlen := length_of_afterName hrest
    refine ⟨⟨?_, hread.capturesEnd⟩, ?_, by simp, ?_, ?_⟩
    · cases rest with
      | nil => exact .inl (hread.nil rfl)
      | cons d rest =>
        obtain rfl : d = ('/', false) := by simpa using hslash
        exact .inr (hread.slash rest rfl)
    · intro _ h
      cases h
      cases hopen
    · have := hread.length
      simp only [List.length_cons]
      omega
    · intro hl
      have := hread.length
      simp only [List.length_cons] at hl
      omega
  | case8 => cases h
  | case9 c marked rest _ hclose hopen ih =>
    obtain ⟨ps, hps, rfl⟩ := Option.map_eq_some_iff.1 h
    exact exact_ (ih hps) (.inr ⟨by simpa using hopen, by simpa using hclose⟩)

theorem length_unescape (t : Text) : (unescape t).length ≤ t.length ∧
    ((unescape t).length = t.length → unescape t = t.map (·, false)) := by
  fun_induction unescape t with
  | case1 rest ih =>
    simp only [List.length_cons]
    exact ⟨by omega, by omega⟩
  | case2 rest ih =>
    simp only [List.length_cons]
    exact ⟨by omega, by omega⟩
  | case3 c rest _ _ ih =>
    simp only [List.length_cons, List.map_cons, List.cons.injEq, true_and]
    exact ⟨by omega, fun h => ih.2 (by omega)⟩
  | case4 => simp

/-- A brace makes the pieces fewer than the characters. -/
theorem length_pieces_lt {t : Text} {p : PathPattern} (h : parse? t = some p)
    (hl : ¬ IsLiteral t) : p.pieces.length < t.length := by
  have hread := readAs_of_piecesOf? (parse?_eq_some h)
  have hpieces := hread.length
  obtain ⟨hle, heq⟩ := length_unescape t
  by_contra hlt
  have hbrace := hread.brace (by omega)
  rw [heq (by omega)] at hbrace
  exact hl ⟨fun hm => (hbrace _ (List.mem_map.2 ⟨_, hm, rfl⟩)).1 rfl,
    fun hm => (hbrace _ (List.mem_map.2 ⟨_, hm, rfl⟩)).2 rfl⟩

/-- A pattern of a path starts with a slash. -/
theorem pieces_eq_cons {t : Text} {p : PathPattern} (h : parse? t = some p)
    (ht : t.head? = some '/') : ∃ ps, p.pieces = .exact '/' :: ps := by
  obtain ⟨rest, rfl⟩ := List.head?_eq_some_iff.1 ht
  exact (readAs_of_piecesOf? (parse?_eq_some h)).slash (unescape rest) (by simp [unescape])

/-! ## A path that is served -/

/-- The path in which every capture takes one letter. -/
def fill : List PatternPiece → Text
  | [] => []
  | .exact c :: pieces => c :: fill pieces
  | .capture :: pieces => 'a' :: fill pieces

theorem length_fill (pieces : List PatternPiece) : (fill pieces).length = pieces.length := by
  fun_induction fill pieces <;> simp_all

/-- A pattern with a brace does not occur in the path that it is filled to. -/
theorem length_fill_lt {t : Text} {p : PathPattern} (h : parse? t = some p)
    (hl : ¬ IsLiteral t) : (fill p.pieces).length < t.length :=
  length_fill p.pieces ▸ length_pieces_lt h hl

/-- Behind a capture the segment ends. -/
theorem CapturesEnd.fill_cases {pieces : List PatternPiece}
    (h : CapturesEnd (.capture :: pieces)) : fill pieces = [] ∨ ∃ r, fill pieces = '/' :: r := by
  rcases h.1 with rfl | ⟨ps, rfl⟩
  · exact .inl rfl
  · exact .inr ⟨fill ps, rfl⟩

theorem matchPieces_fill {pieces : List PatternPiece} (h : CapturesEnd pieces) :
    matchPieces pieces (fill pieces) = some [] := by
  induction pieces with
  | nil => rfl
  | cons piece pieces ih =>
    cases piece with
    | exact c =>
      rw [fill, matchPieces, if_pos rfl]
      exact ih h
    | capture =>
      have hdrop : (fill pieces).dropWhile (· != '/') = fill pieces := by
        rcases h.fill_cases with hf | ⟨r, hf⟩ <;> rw [hf] <;> rfl
      rw [fill, matchPieces, if_neg (by simp), List.dropWhile_cons, if_pos (by decide), hdrop]
      exact ih h.2

theorem serves_fill {t : Text} {p : PathPattern} (h : parse? t = some p) :
    p.serves (fill p.pieces) = true := by
  rw [serves, matchPieces_fill (readAs_of_piecesOf? (parse?_eq_some h)).capturesEnd]
  rfl

/-- Apart from the letters, the characters of the filled pattern are those of a served path. -/
theorem mem_of_mem_fill {pieces : List PatternPiece} {path rest : Text}
    (h : matchPieces pieces path = some rest) {c : Char} (hc : c ∈ fill pieces) :
    c ∈ path ∨ c = 'a' := by
  induction pieces generalizing path with
  | nil => cases hc
  | cons piece pieces ih =>
    cases piece with
    | exact d =>
      cases path with
      | nil => cases h
      | cons e path =>
        rw [matchPieces] at h
        split at h
        · rename_i hde
          subst hde
          rcases List.mem_cons.1 hc with rfl | hc
          · exact .inl (by simp)
          · exact (ih h hc).imp_left (List.mem_cons_of_mem d)
        · cases h
    | capture =>
      rw [matchPieces] at h
      split at h
      · cases h
      · rcases List.mem_cons.1 hc with rfl | hc
        · exact .inr rfl
        · exact (ih h hc).imp_left fun hm => (List.dropWhile_sublist _).subset hm

theorem dropWhile_slash (path : Text) :
    path.dropWhile (· != '/') = [] ∨ ∃ r, path.dropWhile (· != '/') = '/' :: r := by
  induction path with
  | nil => exact .inl rfl
  | cons c path ih =>
    rw [List.dropWhile_cons]
    split
    · exact ih
    · rename_i hc
      obtain rfl : c = '/' := by simpa using hc
      exact .inr ⟨path, rfl⟩

/-- A letter makes the segment plain that it ends. -/
theorem plain_append_letter {front path : Text}
    (h : ∀ s ∈ Path.segments (front ++ path), UrlPath.meaning s = .plain) :
    ∀ s ∈ Path.segments (front ++ ['a']), UrlPath.meaning s = .plain := by
  have hsep : ∀ c ∈ Path.lastSegment front ++ ['a'], Path.isSeparator c = false := by
    intro c hc
    rcases List.mem_append.1 hc with hc | hc
    · exact Path.isSeparator_of_mem_lastSegment hc
    · rw [List.mem_singleton.1 hc]
      rfl
  rw [Path.segments_append] at h ⊢
  rw [Path.segments_of_forall hsep]
  intro s hs
  rcases List.mem_append.1 hs with hs | hs
  · exact h s (List.mem_append_left _ hs)
  · rw [List.mem_singleton.1 hs, meaning_eq_plain_iff]
    rintro (hd | hd) <;> exact absurd (mem_of_dots hd (c := 'a') (by simp)) (by decide)

/-- What goes on behind a segment has no dot segments if the whole has none. -/
theorem plain_dropWhile_slash {front path : Text}
    (h : ∀ s ∈ Path.segments (front ++ path), UrlPath.meaning s = .plain) :
    ∀ s ∈ Path.segments (path.dropWhile (· != '/')), UrlPath.meaning s = .plain := by
  rw [← List.takeWhile_append_dropWhile (p := (· != '/')) (l := path)] at h
  rcases dropWhile_slash path with hd | ⟨q, hd⟩
  · rw [hd]
    intro s hs
    rw [List.mem_singleton.1 hs]
    rfl
  · rw [hd, ← List.append_assoc, Path.segments_append_slash] at h
    rw [hd, Path.segments_slash]
    intro s hs
    rcases List.mem_cons.1 hs with rfl | hs
    · rfl
    · exact h s (List.mem_append_right _ hs)

/-- The filled pattern has no dot segments if a served path has none.  The induction is on the
pieces; `front` is what has been matched of the segment at hand. -/
theorem plain_fill {pieces : List PatternPiece} (hend : CapturesEnd pieces)
    (front : Text) {path rest : Text} (h : matchPieces pieces path = some rest)
    (hrest : rest = [] ∨ ∃ r, rest = '/' :: r)
    (hplain : ∀ s ∈ Path.segments (front ++ path), UrlPath.meaning s = .plain) :
    ∀ s ∈ Path.segments (front ++ fill pieces), UrlPath.meaning s = .plain := by
  induction pieces generalizing front path with
  | nil =>
    cases h
    rw [fill, List.append_nil]
    rcases hrest with rfl | ⟨r, rfl⟩
    · rwa [List.append_nil] at hplain
    · rw [Path.segments_append_slash] at hplain
      exact fun s hs => hplain s (List.mem_append_left _ hs)
  | cons piece pieces ih =>
    cases piece with
    | exact d =>
      cases path with
      | nil => cases h
      | cons e path =>
        rw [matchPieces] at h
        split at h
        · rename_i hde
          subst hde
          have := ih hend (front ++ [d]) h (by simpa using hplain)
          simpa [fill] using this
        · cases h
    | capture =>
      rw [matchPieces] at h
      split at h
      · cases h
      · -- the letter ends its segment, and behind the segment the two paths go on alike
        have hfront := plain_append_letter hplain
        rcases hend.fill_cases with hf | ⟨r, hf⟩
        · rw [fill, hf]
          exact hfront
        · have htail := ih hend.2 [] h (plain_dropWhile_slash hplain)
          rw [List.nil_append, hf, Path.segments_slash] at htail
          rw [fill, hf, ← List.singleton_append, ← List.append_assoc, Path.segments_append_slash]
          intro s hs
          rcases List.mem_append.1 hs with hs | hs
          · exact hfront s hs
          · exact htail s (List.mem_cons_of_mem _ hs)

end CredentialGateway.PathPattern
