import CredentialGateway.Text

/-!
# Path patterns

The start of a served path is a pattern: a name in braces takes the rest of its segment, which must
not be empty, and every other character stands for itself; a doubled brace stands for one.  Served
are the pattern itself, the pattern with a slash behind it, and everything below that slash.

A pattern without braces serves a path exactly if the path is the pattern or goes on with a slash
behind it.                                                            (serves_literal)
-/

namespace CredentialGateway

/-- A piece of a pattern. -/
inductive PatternPiece
  | exact (c : Char)
  | capture
  deriving DecidableEq, Repr

/-- The pieces that a path must match, one after the other. -/
structure PathPattern where
  pieces : List PatternPiece
  deriving DecidableEq, Repr

namespace PathPattern

/-! ## Algorithm -/

/-- A pattern has at most this many captures. -/
def mostCaptures : Nat := 25

/-- The characters of a pattern; those that came from a doubled brace are marked. -/
def unescape : Text → List (Char × Bool)
  | '\x7b' :: '\x7b' :: rest => ('\x7b', true) :: unescape rest
  | '\x7d' :: '\x7d' :: rest => ('\x7d', true) :: unescape rest
  | c :: rest => (c, false) :: unescape rest
  | [] => []

/-- What follows the brace that closes a name. -/
def afterName : List (Char × Bool) → Option (List (Char × Bool))
  | [] => none
  | (c, marked) :: rest =>
    if c == '\x7d' then (if marked then afterName rest else some rest)
    else if c == '*' || c == '/' then none
    else afterName rest

theorem length_of_afterName {cs rest : List (Char × Bool)} (h : afterName cs = some rest) :
    rest.length < cs.length := by
  fun_induction afterName cs with
  | case1 => simp at h
  | case2 c rest' _ ih => simp; have := ih h; omega
  | case3 c rest' => simp at h; subst h; simp
  | case4 => simp at h
  | case5 c marked rest' _ _ ih => simp; have := ih h; omega

/-- The pieces of a pattern.  A capture ends its segment, and its name is not empty; names that
take more than one segment are not for the start of a path. -/
def piecesOf? (cs : List (Char × Bool)) : Option (List PatternPiece) :=
  match cs with
  | [] => some []
  | (c, marked) :: rest =>
    if marked then (piecesOf? rest).map (.exact c :: ·)
    else if c == '\x7d' then none
    else if c == '\x7b' then
      match rest with
      | [] => none
      | (first, _) :: rest =>
        if first == '\x7d' || first == '*' then none
        else
          match _h : afterName rest with
          | none => none
          | some rest =>
            if rest.head?.all (· == ('/', false)) then (piecesOf? rest).map (.capture :: ·)
            else none
    else (piecesOf? rest).map (.exact c :: ·)
termination_by cs.length
decreasing_by
  · exact Nat.lt_succ_self _
  · exact Nat.lt_trans (length_of_afterName _h)
      (Nat.lt_trans (Nat.lt_succ_self _) (Nat.lt_succ_self _))
  · exact Nat.lt_succ_self _

/-- A segment that an older notation would take for a capture. -/
def isOldCapture (segment : Text) : Bool := segment.head? = some ':' || segment.head? = some '*'

/-- The pattern that a text writes. -/
def parse? (t : Text) : Option PathPattern :=
  if t.head? ≠ some '/' || (t.splitOn '/').any isOldCapture then none
  else do
    let pieces ← piecesOf? (unescape t)
    if pieces.count .capture ≤ mostCaptures then some ⟨pieces⟩ else none

/-- What a path goes on with behind what the pieces match. -/
def matchPieces : List PatternPiece → Text → Option Text
  | [], path => some path
  | .exact _ :: _, [] => none
  | .exact c :: pieces, d :: path => if c = d then matchPieces pieces path else none
  | .capture :: pieces, path =>
    if path.takeWhile (· != '/') = [] then none
    else matchPieces pieces (path.dropWhile (· != '/'))

/-- The path is one that the pattern serves. -/
def serves (p : PathPattern) (path : Text) : Bool :=
  match matchPieces p.pieces path with
  | some rest => rest.head?.all (· == '/')
  | none => false

/-! ## Lemmas -/

theorem matchPieces_exact (t path : Text) :
    matchPieces (t.map .exact) path =
      if t.isPrefixOf path then some (path.drop t.length) else none := by
  induction t generalizing path with
  | nil => simp [matchPieces]
  | cons c t ih =>
    cases path with
    | nil => simp [matchPieces]
    | cons d path =>
      by_cases h : c = d
      · simp [matchPieces, ih, h, List.isPrefixOf]
      · simp [matchPieces, h, List.isPrefixOf]

/-- A pattern of exact characters serves itself and what lies below it. -/
theorem serves_literal (t path : Text) :
    serves ⟨t.map .exact⟩ path = true ↔ path = t ∨ (t ++ ['/']) <+: path := by
  unfold serves
  rw [matchPieces_exact]
  constructor
  · intro h
    split at h
    · rename_i rest hrest
      split at hrest
      · rename_i hp
        obtain ⟨s, rfl⟩ := List.isPrefixOf_iff_prefix.1 hp
        simp at hrest
        subst hrest
        cases s with
        | nil => left; simp
        | cons d s =>
          right
          simp at h
          subst h
          exact ⟨s, by simp⟩
      · cases hrest
    · cases h
  · rintro (rfl | ⟨s, rfl⟩)
    · simp
    · have hp : t.isPrefixOf (t ++ ['/'] ++ s) = true :=
        List.isPrefixOf_iff_prefix.2 ⟨'/' :: s, by simp⟩
      rw [if_pos hp]
      simp

end PathPattern

end CredentialGateway
