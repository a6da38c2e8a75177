import CredentialGateway.Text.Hex

/-!
# Header fields

A header name is a token in lower case, a header value a run of bytes without control characters
other than TAB; both carry the proof.  `Headers` is a multimap: a name may occur many times, and
only the order of the values of one name means anything.

    values n (erase m h)    = if n = m then [] else values n h
    values n (insert m v h) = if n = m then [v] else values n h
-/

namespace CredentialGateway

/-- A character that a token may hold. -/
def isTokenChar (c : Char) : Bool :=
  c.isAlphanum ||
    c ∈ ['!', '#', '$', '%', '&', '\x27', '*', '+', '-', '.', '^', '_', '\x60', '|', '~']

/-- A text that names a header: a non-empty token of bounded length in lower case. -/
def isHeaderName (t : Text) : Bool :=
  !t.isEmpty && t.length ≤ 65535 && t.all fun c => isTokenChar c && !c.isUpper

/-- The name of a header field. -/
structure HeaderName where
  text : Text
  valid : isHeaderName text = true
  deriving DecidableEq

/-- A byte that a header value may hold: TAB, and all from the space on but DEL. -/
def isFieldByte (b : UInt8) : Bool := b == 0x09 || (0x20 ≤ b && b != 0x7F)

/-- The value of a header field.  A sensitive value is not shown in diagnostics. -/
structure HeaderValue where
  bytes : Bytes
  sensitive : Bool := false
  valid : bytes.all isFieldByte = true
  deriving DecidableEq

/-- Header fields in the order in which they were written. -/
abbrev Headers := List (HeaderName × HeaderValue)

/-! ## Algorithm -/

namespace HeaderName

/-- Upper case letters are read as lower case. -/
def ofText? (t : Text) : Option HeaderName :=
  if h : isHeaderName t.lower = true then some ⟨t.lower, h⟩ else none

def ofBytes? (bs : Bytes) : Option HeaderName := ofText? (Bytes.asciiText bs)

def connection : HeaderName := ⟨"connection", rfl⟩
def proxyConnection : HeaderName := ⟨"proxy-connection", rfl⟩
def keepAlive : HeaderName := ⟨"keep-alive", rfl⟩
def proxyAuthenticate : HeaderName := ⟨"proxy-authenticate", rfl⟩
def proxyAuthorization : HeaderName := ⟨"proxy-authorization", rfl⟩
def te : HeaderName := ⟨"te", rfl⟩
def trailer : HeaderName := ⟨"trailer", rfl⟩
def transferEncoding : HeaderName := ⟨"transfer-encoding", rfl⟩
def upgrade : HeaderName := ⟨"upgrade", rfl⟩
def host : HeaderName := ⟨"host", rfl⟩
def contentType : HeaderName := ⟨"content-type", rfl⟩
def contentLength : HeaderName := ⟨"content-length", rfl⟩
def authorization : HeaderName := ⟨"authorization", rfl⟩
def accept : HeaderName := ⟨"accept", rfl⟩

end HeaderName

namespace HeaderValue

def ofBytes? (bs : Bytes) : Option HeaderValue :=
  if h : bs.all isFieldByte = true then some ⟨bs, false, h⟩ else none

def ofText? (t : Text) : Option HeaderValue := ofBytes? t.utf8

/-- The value as text, if it holds nothing but printable ASCII characters, blanks and TABs. -/
def text? (v : HeaderValue) : Option Text :=
  if v.bytes.all fun b => b == 0x09 || (0x20 ≤ b && b < 0x7F) then some (Bytes.asciiText v.bytes)
  else none

/-- The same bytes, marked as not to be shown. -/
def hidden (v : HeaderValue) : HeaderValue := { v with sensitive := true }

/-- What diagnostics show: nothing of a sensitive value, else the bytes between quotes, those that
are not printable ASCII as numbers. -/
def shown (v : HeaderValue) : Text :=
  let byte (b : UInt8) : Text :=
    if b == 0x22 then "\\\"".toList
    else if b == 0x09 || (0x20 ≤ b && b < 0x7F) then [Char.ofNat b.toNat]
    else '\\' :: 'x' :: Hex.ofNat b.toNat
  if v.sensitive then "Sensitive" else '"' :: v.bytes.flatMap byte ++ ['"']

/-- A decimal number as a header value. -/
def ofNat? (n : Nat) : Option HeaderValue := ofText? (Text.ofNat n)

end HeaderValue

namespace Headers

/-- The values of one name, in order. -/
def values (name : HeaderName) (h : Headers) : List HeaderValue :=
  (h.filter (·.1 = name)).map (·.2)

def contains (name : HeaderName) (h : Headers) : Bool := h.any (·.1 = name)

/-- The fields without those of one name. -/
def erase (name : HeaderName) (h : Headers) : Headers := h.filter (·.1 ≠ name)

/-- The fields with the first value only of one name. -/
def once (name : HeaderName) : Headers → Headers
  | [] => []
  | field :: h => if field.1 = name then field :: erase name h else field :: once name h

/-- The name gets this one value in place of all it had. -/
def insert (name : HeaderName) (v : HeaderValue) (h : Headers) : Headers :=
  erase name h ++ [(name, v)]

/-- The name gets this value after those it has. -/
def append (name : HeaderName) (v : HeaderValue) (h : Headers) : Headers := h ++ [(name, v)]

end Headers

/-! ## Lemmas -/

namespace Headers

theorem values_erase (n m : HeaderName) (h : Headers) :
    values n (erase m h) = if n = m then [] else values n h := by
  unfold values erase
  rw [List.filter_filter]
  split
  · subst n
    rw [List.map_eq_nil_iff, List.filter_eq_nil_iff]
    intro a _
    simp
  · rename_i hne
    congr 1
    apply List.filter_congr
    intro a _
    by_cases ha : a.1 = n
    · simp [ha, hne]
    · simp [ha]

theorem values_append (n m : HeaderName) (v : HeaderValue) (h : Headers) :
    values n (append m v h) = values n h ++ if m = n then [v] else [] := by
  unfold values append
  rw [List.filter_append, List.map_append]
  congr 1
  by_cases hm : m = n <;> simp [hm]

theorem values_insert (n m : HeaderName) (v : HeaderValue) (h : Headers) :
    values n (insert m v h) = if n = m then [v] else values n h := by
  have := values_append n m v (erase m h)
  unfold append at this
  unfold insert
  rw [this, values_erase]
  by_cases hn : n = m
  · simp [hn]
  · simp [hn, Ne.symm hn]

theorem values_cons (n : HeaderName) (field : HeaderName × HeaderValue) (h : Headers) :
    values n (field :: h) = if field.1 = n then field.2 :: values n h else values n h := by
  unfold values
  rw [List.filter_cons]
  by_cases hn : field.1 = n <;> simp [hn]

theorem values_eq_nil_iff {n : HeaderName} {h : Headers} :
    values n h = [] ↔ contains n h = false := by
  rw [values, List.map_eq_nil_iff, List.filter_eq_nil_iff, contains, List.any_eq_false]

/-- The first value is left, and every value of the other names. -/
theorem values_once (n m : HeaderName) (h : Headers) :
    values n (once m h) = if n = m then (values n h).take 1 else values n h := by
  induction h with
  | nil => simp [once, values]
  | cons field h ih =>
    unfold once
    split
    · rename_i hm
      rw [values_cons, values_cons, values_erase, hm]
      by_cases hn : n = m
      · simp [hn]
      · simp [hn]
    · rename_i hm
      rw [values_cons, values_cons, ih]
      by_cases hn : n = m
      · simp [hn, hm]
      · simp [hn]

theorem once_of_length_le {name : HeaderName} {h : Headers} (hle : (values name h).length ≤ 1) :
    once name h = h := by
  induction h with
  | nil => rfl
  | cons field h ih =>
    rw [values_cons] at hle
    unfold once
    split
    · rename_i hname
      have hnone : values name h = [] := by simpa [hname] using hle
      rw [values, List.map_eq_nil_iff, List.filter_eq_nil_iff] at hnone
      rw [erase, List.filter_eq_self.2 fun other hother => by simpa using hnone other hother]
    · rename_i hname
      rw [if_neg hname] at hle
      rw [ih hle]

end Headers

end CredentialGateway
