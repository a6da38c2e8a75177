import CredentialGateway.Header.HopByHop
import CredentialGateway.Text.Hex

/-!
# Body framing

Where a body ends on a connection: after a given number of bytes, or with the chunk of size zero.
The decision is made from the headers alone, in the order in which they stand.  How long the lines
between chunks may be is not limited.
-/

namespace CredentialGateway.Http

/-- How the end of a body is found. -/
inductive Framing
  | length (n : Nat)
  | chunked
  deriving DecidableEq, Repr

/-- The value that announces a body in chunks. -/
def chunkedValue : HeaderValue := ⟨Text.utf8 "chunked", false, by decide⟩

/-- The cause why a request is refused before it is looked at. -/
inductive Refusal
  | malformed
  | uriTooLong
  | headTooLarge
  deriving DecidableEq, Repr

def Refusal.status : Refusal → Nat
  | malformed => 400
  | uriTooLong => 414
  | headTooLarge => 431

/-! ## The decision -/

/-- Lengths have 64 bits. -/
def lengthBound : Nat := 0x10000000000000000

/-- A length in bytes: decimal digits, of 64 bits at most. -/
def length? (v : HeaderValue) : Option Nat :=
  let t := Bytes.asciiText v.bytes
  if t = [] || !t.all Char.isDigit then none
  else
    let n := t.foldl (fun n c => 10 * n + (c.toNat - 48)) 0
    if n < lengthBound then some n else none

/-- The length that all values of `Content-Length` agree on. -/
def givenLength? (h : Headers) : Option Nat :=
  match (Headers.values .contentLength h).map length? with
  | some n :: rest => if rest.all (· = some n) then some n else none
  | _ => none

/-- The members of a list value, without the blanks around them. -/
def listMembers (v : HeaderValue) : List Text :=
  match v.text? with
  | some t => (t.splitOn ',').map (Text.trimBy Headers.isBlank)
  | none => []

/-- The value names this option among others. -/
def hasOption (option : Text) (v : HeaderValue) : Bool :=
  (listMembers v).any (Text.sameLetters option)

/-- The last coding of the value is the chunked one. -/
def endsChunked (v : HeaderValue) : Bool :=
  (listMembers v).getLast?.any (Text.sameLetters "chunked")

/-- What the headers read so far say about the body and the connection. -/
structure FramingScan where
  /-- Whether the last transfer coding is the chunked one, if there is any. -/
  coding : Option Bool := none
  length : Option Nat := none
  keepAlive : Bool
  /-- The headers that are kept. -/
  kept : Headers := []

/-- Takes one header into account.  A repeated length is dropped, a different one refused. -/
def FramingScan.next (newer : Bool) (s : FramingScan) (field : HeaderName × HeaderValue) :
    Except Refusal FramingScan :=
  let (name, v) := field
  let kept := s.kept ++ [field]
  if name = .transferEncoding then
    if newer then .ok { s with coding := some (endsChunked v), kept } else .error .malformed
  else if name = .contentLength then
    if s.coding.isSome then .ok s
    else match length? v, s.length with
      | none, _ => .error .malformed
      | some n, some m => if n = m then .ok s else .error .malformed
      | some n, none =>
        if n + 2 < lengthBound then .ok { s with length := some n, kept } else .error .headTooLarge
  else if name = .connection then
    let keepAlive := if s.keepAlive then !hasOption "close" v else hasOption "keep-alive" v
    .ok { s with keepAlive, kept }
  else .ok { s with kept }

/-- The framing, the headers that are kept, and whether the connection stays open. -/
def frame (newer : Bool) (h : Headers) : Except Refusal (Framing × Headers × Bool) := do
  let s ← h.foldlM (FramingScan.next newer) { keepAlive := newer }
  match s.coding with
  | some true => return (.chunked, s.kept, s.keepAlive)
  | some false => throw .malformed
  | none => return (.length (s.length.getD 0), s.kept, s.keepAlive)

/-! ## Chunks -/

def crlf : Bytes := [13, 10]

/-- A chunk with its size in front. -/
def writeChunk (c : Bytes) : Bytes := (Hex.ofNat c.length).utf8 ++ crlf ++ c ++ crlf

/-- The chunks, and the one of size zero that ends them. -/
def writeChunks (cs : List Bytes) : Bytes :=
  ((cs.filter (· ≠ [])).flatMap writeChunk) ++ [48] ++ crlf ++ crlf

/-- The rest of a line, behind its LF. -/
def afterLine : Bytes → Option Bytes
  | [] => none
  | b :: rest => if b == 10 then some rest else afterLine rest

theorem length_of_afterLine {bs rest : Bytes} (h : afterLine bs = some rest) :
    rest.length < bs.length := by
  fun_induction afterLine bs with
  | case1 => simp at h
  | case2 b rest' _ => simp at h; subst h; simp
  | case3 b rest' _ ih => exact Nat.lt_succ_of_lt (ih h)

/-- A digit to base 16. -/
def isSizeDigit (b : UInt8) : Bool := (Hex.digit? (Char.ofNat b.toNat)).isSome

/-- The size of a chunk, whatever stands behind it on its line, and what follows the line. -/
def chunkSize? (bs : Bytes) : Option (Nat × Bytes) := do
  let n ← Hex.number? (Bytes.asciiText (bs.takeWhile isSizeDigit))
  return (n, ← afterLine bs)

theorem length_of_chunkSize? {bs rest : Bytes} {n : Nat} (h : chunkSize? bs = some (n, rest)) :
    rest.length < bs.length := by
  simp [chunkSize?, Option.bind_eq_some_iff] at h
  exact length_of_afterLine h.2

/-- What follows the lines behind the last chunk, the empty one included. -/
def afterTrailers (bs : Bytes) : Option Bytes :=
  if bs.take 2 = crlf then some (bs.drop 2)
  else match _h : afterLine bs with
    | some rest => afterTrailers rest
    | none => none
termination_by bs.length
decreasing_by exact length_of_afterLine _h

/-- The bytes of the chunks, and what follows them; `none` for what follows if they break off. -/
def readChunks (bs : Bytes) : Bytes × Option Bytes :=
  match _h : chunkSize? bs with
  | none => ([], none)
  | some (0, rest) => ([], afterTrailers rest)
  | some (n + 1, rest) =>
    match _h' : rest.drop (n + 1) with
    | 13 :: 10 :: rest' =>
      let (body, after) := readChunks rest'
      (rest.take (n + 1) ++ body, after)
    | _ => (rest.take (n + 1), none)
termination_by bs.length
decreasing_by
  have hr := length_of_chunkSize? _h
  have hd := congrArg List.length _h'
  simp at hd
  omega

/-- The body at the front of the bytes, and whether it is whole. -/
def readBody (framing : Framing) (bs : Bytes) : Bytes × Bool :=
  match framing with
  | .length n => (bs.take n, n ≤ bs.length)
  | .chunked =>
    let (body, after) := readChunks bs
    (body, after.isSome)

end CredentialGateway.Http
