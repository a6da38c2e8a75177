import CredentialGateway.Text.Hex
import CredentialGateway.Toml.Value

/-!
# Strings

A string stands between double quotes, with escapes, or between single quotes, as it is.  Three
quotes at either end let it go over several lines: a line end right after the opening quotes does
not count, every other one is a single LF, and up to two quotes may stand before the closing ones.
-/

namespace CredentialGateway.Toml.Quote

/-- A character that may stand for itself: no control but TAB. -/
def isPlain (c : Char) : Bool := c == '\t' || (0x20 ≤ c.toNat && c.toNat != 0x7F)

/-- The character that an escape by one letter stands for. -/
def letter? (c : Char) : Option Char :=
  if c == 'b' then some '\x08'
  else if c == 't' then some '\t'
  else if c == 'n' then some '\n'
  else if c == 'f' then some '\x0c'
  else if c == 'r' then some '\r'
  else if c == '"' || c == '\\' then some c
  else none

/-- The character with this number to base 16. -/
def scalar? (ds : Text) : Option Char := do
  let n ← Hex.number? ds
  if n.isValidChar then some (Char.ofNat n) else none

/-- One more character in front of what is read from the rest. -/
def andThen (c : Option Char) (more : Option (Text × Text)) : Option (Text × Text) := do
  let c ← c
  let (s, rest) ← more
  return (c :: s, rest)

/-- Reads up to the closing double quote. -/
def basic : Reader Text
  | '"' :: rest => some ([], rest)
  | '\\' :: 'u' :: a :: b :: c :: d :: rest => andThen (scalar? [a, b, c, d]) (basic rest)
  | '\\' :: 'U' :: a :: b :: c :: d :: e :: f :: g :: h :: rest =>
    andThen (scalar? [a, b, c, d, e, f, g, h]) (basic rest)
  | '\\' :: c :: rest => andThen (letter? c) (basic rest)
  | c :: rest => if isPlain c && c != '\\' then andThen (some c) (basic rest) else none
  | [] => none

/-- Reads up to the closing single quote. -/
def literal : Reader Text
  | '\x27' :: rest => some ([], rest)
  | c :: rest => if isPlain c then andThen (some c) (literal rest) else none
  | [] => none

/-- What follows blanks and line ends. -/
def skipBlankLines : Text → Text
  | '\r' :: '\n' :: rest => skipBlankLines rest
  | c :: rest => if c == ' ' || c == '\t' || c == '\n' then skipBlankLines rest else c :: rest
  | [] => []

/-- What follows a backslash that hides a line end, if it does. -/
def hiddenLineEnd? (t : Text) : Option Text :=
  match t.dropWhile fun c => c == ' ' || c == '\t' with
  | '\n' :: rest => some (skipBlankLines rest)
  | '\r' :: '\n' :: rest => some (skipBlankLines rest)
  | _ => none

/-- The quotes that stand before the closing ones, and the rest. -/
def extraQuotes (quote : Char) : Text → Text × Text
  | a :: b :: rest =>
    if a == quote then
      if b == quote then ([a, b], rest) else ([a], b :: rest)
    else ([], a :: b :: rest)
  | [a] => if a == quote then ([a], []) else ([], [a])
  | [] => ([], [])

theorem length_skipBlankLines (t : Text) : (skipBlankLines t).length ≤ t.length := by
  fun_induction skipBlankLines t with
  | case1 rest ih => simp; omega
  | case2 c rest _ _ ih => simp; omega
  | case3 => simp
  | case4 => simp

theorem length_of_hiddenLineEnd? {t r : Text} (h : hiddenLineEnd? t = some r) :
    r.length < t.length := by
  unfold hiddenLineEnd? at h
  have hd : ∀ p : Char → Bool, (t.dropWhile p).length ≤ t.length :=
    fun p => (List.dropWhile_suffix p).length_le
  split at h
  · rename_i rest heq
    have := hd fun c => c == ' ' || c == '\t'
    rw [heq] at this
    have hs := length_skipBlankLines rest
    simp at h this
    subst h
    omega
  · rename_i rest heq
    have := hd fun c => c == ' ' || c == '\t'
    rw [heq] at this
    have hs := length_skipBlankLines rest
    simp at h this
    subst h
    omega
  · simp at h

/-- Reads up to the three closing double quotes. -/
def multiBasic (t : Text) : Option (Text × Text) :=
  match t with
  | '"' :: '"' :: '"' :: rest => some (extraQuotes '"' rest)
  | '\\' :: 'u' :: a :: b :: c :: d :: rest => andThen (scalar? [a, b, c, d]) (multiBasic rest)
  | '\\' :: 'U' :: a :: b :: c :: d :: e :: f :: g :: h :: rest =>
    andThen (scalar? [a, b, c, d, e, f, g, h]) (multiBasic rest)
  | '\\' :: rest =>
    match _h : hiddenLineEnd? rest with
    | some rest' => multiBasic rest'
    | none =>
      match rest with
      | c :: rest' => andThen (letter? c) (multiBasic rest')
      | [] => none
  | '\r' :: '\n' :: rest => andThen (some '\n') (multiBasic rest)
  | c :: rest => if isPlain c || c == '\n' then andThen (some c) (multiBasic rest) else none
  | [] => none
termination_by t.length
decreasing_by
  all_goals simp_wf
  all_goals first
    | omega
    | exact Nat.lt_succ_of_lt (length_of_hiddenLineEnd? _h)
    | exact Nat.le_of_lt (length_of_hiddenLineEnd? _h)

/-- Reads up to the three closing single quotes. -/
def multiLiteral : Reader Text
  | '\x27' :: '\x27' :: '\x27' :: rest => some (extraQuotes '\x27' rest)
  | '\r' :: '\n' :: rest => andThen (some '\n') (multiLiteral rest)
  | c :: rest => if isPlain c || c == '\n' then andThen (some c) (multiLiteral rest) else none
  | [] => none

/-- The text without a line end at its front. -/
def dropLineEnd : Text → Text
  | '\n' :: rest => rest
  | '\r' :: '\n' :: rest => rest
  | t => t

/-- Reads a string of one line. -/
def readLine : Reader Text
  | '"' :: rest => basic rest
  | '\x27' :: rest => literal rest
  | _ => none

/-- Reads a string. -/
def read : Reader Text
  | '"' :: '"' :: '"' :: rest => multiBasic (dropLineEnd rest)
  | '\x27' :: '\x27' :: '\x27' :: rest => multiLiteral (dropLineEnd rest)
  | t => readLine t

end CredentialGateway.Toml.Quote
