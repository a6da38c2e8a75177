import CredentialGateway.Url.Basic

/-!
# Reading a URL

Blanks and controls around a URL do not count, and TAB, LF and CR count nowhere.  A URL starts with
a scheme and a colon.  What follows is cut at the first `#` and then at the first `?`; the front
part is an authority behind slashes, and a path.
-/

namespace CredentialGateway.Url

/-- Controls and the blank count for nothing at the ends of a URL. -/
def isPadding (c : Char) : Bool := c.toNat ≤ 0x20

def isSchemeChar (c : Char) : Bool := c.isAlphanum || c == '+' || c == '-' || c == '.'

/-- The scheme in lower case, and what follows its colon. -/
def scheme? (t : Text) : Option (Text × Text) :=
  match Text.cut ':' t with
  | (scheme, some rest) =>
    if scheme.head?.any Char.isAlpha && scheme.all isSchemeChar then some (scheme.lower, rest)
    else none
  | (_, none) => none

/-- The parts before and after the last `@`. -/
def splitUser (t : Text) : Option (Text × Text) :=
  match t.reverse.span (· != '@') with
  | (_, []) => none
  | (host, _ :: user) => some (user.reverse, host.reverse)

/-- User name and password, cut at the first colon. -/
def userInfo (t : Text) : UserInfo :=
  let (name, password) := Text.cut ':' t
  ⟨Percent.encode Percent.userinfoSet name, Percent.encode Percent.userinfoSet (password.getD [])⟩

/-- The host and the text after it: a colon ends the host outside of brackets. -/
def splitHost (bracketed : Bool) : Text → Text × Text
  | [] => ([], [])
  | c :: rest =>
    if c == ':' && !bracketed then ([], c :: rest)
    else
      let inside := if c == '[' then true else if c == ']' then false else bracketed
      let (host, after) := splitHost inside rest
      (c :: host, after)

/-- Reads the digits of a port; `\` ends them even where it ends no authority. -/
def portDigits (port : Option Nat) : Text → Except UrlError (Option Nat × Text)
  | [] => .ok (port, [])
  | c :: rest =>
    if c.isDigit then
      let n := 10 * port.getD 0 + (c.toNat - 48)
      if n > 65535 then .error .port else portDigits (some n) rest
    else if c == '\\' then .ok (port, c :: rest)
    else .error .port

/-- The port behind the host, and what is left of the authority. -/
def readPort (scheme : Text) (t : Text) : Except UrlError (Option Nat × Text) :=
  match t with
  | ':' :: digits => do
    let (n, rest) ← portDigits none digits
    return (if n = defaultPort scheme then none else n, rest)
  | _ => .ok (none, t)

/-- An authority, and what of it belongs to the path.  Under a scheme that is not special the host
may be missing. -/
def readAuthority (scheme : Text) (t : Text) (atEnd : Bool) :
    Except UrlError (Option Authority × Text) := do
  let special := isSpecialScheme scheme
  let (user, rest) := (splitUser t).getD ([], t)
  if (splitUser t).isSome && user = [] && rest = [] && !atEnd then throw .emptyHost
  let (hostText, rest) := splitHost false rest
  if special && hostText = [] then throw .emptyHost
  let host ← if special then Host.parse hostText else Host.parsePlain hostText
  let info := userInfo user
  if host = .domain [] then
    if rest.head? = some ':' || info.text ≠ [] then throw .emptyHost
    return (none, rest)
  let (port, rest) ← readPort scheme rest
  return (some ⟨info, host, port⟩, rest)

/-- The front part of a URL under a special scheme: any number of slashes, authority, path. -/
def parseSpecial (scheme t : Text) (atEnd : Bool) : Except UrlError (Option Authority × Text) := do
  let isSlash (c : Char) := UrlPath.isSeparator true c
  let (name, path) := (t.dropWhile isSlash).span (!isSlash ·)
  let (a, rest) ← readAuthority scheme name (atEnd && path = [])
  return (a, normalPath scheme (rest ++ path))

/-- The front part of a URL under a scheme that is not special: an authority behind two slashes, a
path behind one, or text without structure. -/
def parsePlain (scheme t : Text) (atEnd : Bool) : Except UrlError (Option Authority × Text) := do
  match t with
  | '/' :: '/' :: rest =>
    let (name, path) := rest.span (· != '/')
    let (a, rest) ← readAuthority scheme name (atEnd && path = [])
    return (a, normalPath scheme (rest ++ path))
  | '/' :: _ => return (none, normalPath scheme t)
  | _ => return (none, Percent.encode Percent.controlSet t)

/-- The host of a file, unless it is none: a drive belongs to the path, and this machine needs no
name. -/
def fileHost (name : Text) : Except UrlError (Option Host) := do
  if name = [] || UrlPath.isDrive name then return none
  match ← Host.parse name with
  | .domain n => return if n = "localhost" then none else some (.domain n)
  | host => return some host

/-- The front part of a file URL. -/
def parseFile (t : Text) : Except UrlError (Option Authority × Text) := do
  let isSlash (c : Char) := UrlPath.isSeparator true c
  match t with
  | a :: b :: rest =>
    if isSlash a && isSlash b then
      let (name, path) := rest.span (!isSlash ·)
      let host ← fileHost name
      let path := if UrlPath.isDrive name then rest else path
      let drive := (UrlPath.resolve (UrlPath.segments true path)).head?.any UrlPath.isDrive
      return (if drive then none else host.map fun h => ⟨{}, h, none⟩, UrlPath.normalizeFile path)
    else return (none, UrlPath.normalizeFile t)
  | _ => return (none, UrlPath.normalizeFile t)

/-- The URL that a text writes. -/
def parse (t : Text) : Except UrlError Url := do
  let t := (Text.trimBy isPadding t).filter (!UrlPath.isIgnored ·)
  let some (scheme, rest) := scheme? t | throw .noScheme
  let (rest, fragment) := Text.cut '#' rest
  let (front, query) := Text.cut '?' rest
  let atEnd := fragment.isNone && query.isNone
  let (authority, path) ←
    if scheme = "file" then parseFile front
    else if isSpecialScheme scheme then parseSpecial scheme front atEnd
    else parsePlain scheme front atEnd
  return {
    scheme, authority, path
    query := query.map (normalQuery scheme)
    fragment := fragment.map (Percent.encode Percent.fragmentSet) }

end CredentialGateway.Url
