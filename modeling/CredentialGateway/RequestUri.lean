import CredentialGateway.Text

/-!
# Request URIs

The URI of a request is a path, an absolute URI, an authority alone, or `*`.  It is read byte for
byte; a path or query may hold bytes beyond ASCII if they are text together.  A fragment is dropped.

An absolute URI without a path asks for `/`; an authority alone has the empty path.
-/

namespace CredentialGateway

structure RequestUri where
  scheme : Option Text
  authority : Option Text
  path : Text
  query : Option Text
  deriving DecidableEq, Repr

/-- The cause why bytes are no request URI. -/
inductive UriError
  | empty
  | tooLong
  | character
  | format
  | authority
  | schemeTooLong
  deriving DecidableEq, Repr

def UriError.message : UriError → Text
  | empty => "empty string"
  | tooLong => "uri too long"
  | character => "invalid uri character"
  | format => "invalid format"
  | authority => "invalid authority"
  | schemeTooLong => "scheme too long"

namespace RequestUri

/-! ## Algorithm -/

def longest : Nat := 65534

def longestScheme : Nat := 64

def isPathChar (c : Char) : Bool :=
  0x20 < c.toNat && !(['#', '<', '>', '?', '\x60'].contains c)

def isQueryChar (c : Char) : Bool :=
  0x20 < c.toNat && !(['"', '#', '<', '>'].contains c)

def isAuthorityChar (c : Char) : Bool :=
  c.isAlphanum || ['!', '$', '%', '&', '\x27', '(', ')', '*', '+', ',', '-', '.', ':', ';', '=',
    '@', '[', ']', '_', '~'].contains c

def isSchemeChar (c : Char) : Bool := c.isAlphanum || c == '+' || c == '-' || c == '.'

/-- The characters that the bytes write together.  Each character of the argument is one byte. -/
def decode (raw : Text) : Except UriError Text :=
  match Bytes.text? (raw.map fun c => UInt8.ofNat c.toNat) with
  | some t => .ok t
  | none => .error .character

/-- Path and query; nothing as path stands for `/`. -/
def pathAndQuery (raw : Text) : Except UriError (Text × Option Text) := do
  let raw := (Text.cut '#' raw).1
  let (path, query) := Text.cut '?' raw
  if !path.all isPathChar || !(query.getD []).all isQueryChar then throw .character
  let path ← decode path
  let query ← match query with
    | some q => some <$> decode q
    | none => pure none
  return (if path = [] then ['/'] else path, query)

/-- What has been seen in an authority: colons since the last `@` or `]`, brackets, and a percent
sign outside of user names and brackets. -/
structure AuthorityScan where
  colons : Nat := 0
  opened : Bool := false
  closed : Bool := false
  percent : Bool := false

/-- One character of an authority. -/
def AuthorityScan.next (s : AuthorityScan) (c : Char) : Except UriError AuthorityScan :=
  if !isAuthorityChar c then .error .character
  else if c == ':' then
    if s.colons < 8 then .ok { s with colons := s.colons + 1 } else .error .authority
  else if c == '[' then
    if s.percent || s.opened then .error .authority else .ok { s with opened := true }
  else if c == ']' then
    if s.closed then .error .authority
    else .ok { s with closed := true, colons := 0, percent := false }
  else if c == '@' then .ok { s with colons := 0, percent := false }
  else if c == '%' then .ok { s with percent := true }
  else .ok s

/-- The text is an authority, or empty. -/
def checkAuthority (t : Text) : Except UriError Unit := do
  let s ← t.foldlM AuthorityScan.next {}
  if s.opened != s.closed || s.colons > 1 || s.percent || t.getLast? = some '@' then
    throw .authority

def isAuthorityEnd (c : Char) : Bool := c == '/' || c == '?' || c == '#'

/-- The scheme, in the form in which it is kept, and what follows `://`. -/
def scheme? (raw : Text) : Except UriError (Option Text × Text) :=
  let name := raw.takeWhile isSchemeChar
  let rest := raw.drop name.length
  if raw.length > 3 && "://".toList.isPrefixOf rest then
    let rest := rest.drop 3
    if Text.sameLetters name "http" || Text.sameLetters name "https" then
      .ok (some (Text.lower name), rest)
    else if name.length > longestScheme then .error .schemeTooLong
    else .ok (some name, rest)
  else .ok (none, raw)

/-- An absolute URI, or an authority alone. -/
def parseFull (raw : Text) : Except UriError RequestUri := do
  let (scheme, rest) ← scheme? raw
  let (name, rest) := rest.span (!isAuthorityEnd ·)
  checkAuthority name
  match scheme with
  | none => if rest = [] then return ⟨none, some name, [], none⟩ else throw .format
  | some s =>
    if name = [] then throw .format
    let (path, query) ← pathAndQuery rest
    return ⟨some s, some name, path, query⟩

/-- The URI that the bytes write. -/
def parse (bytes : Bytes) : Except UriError RequestUri := do
  let raw := Bytes.asciiText bytes
  if raw.length > longest then throw .tooLong
  match raw with
  | [] => throw .empty
  | ['*'] => return ⟨none, none, ['*'], none⟩
  | [c] =>
    if c == '/' then return ⟨none, none, ['/'], none⟩
    else if isAuthorityEnd c then throw .character
    else
      checkAuthority [c]
      return ⟨none, some [c], [], none⟩
  | '/' :: _ =>
    let (path, query) ← pathAndQuery raw
    return ⟨none, none, path, query⟩
  | _ => parseFull raw

/-- The URI as it is written. -/
def text (u : RequestUri) : Text :=
  (match u.scheme with
    | some s => s ++ "://"
    | none => []) ++ u.authority.getD [] ++ u.path ++
    (match u.query with
      | some q => '?' :: q
      | none => [])

end RequestUri

end CredentialGateway
