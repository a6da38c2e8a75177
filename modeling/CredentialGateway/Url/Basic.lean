import CredentialGateway.Url.Host
import CredentialGateway.Url.Path

/-!
# URLs

A URL is held in its normal form: every part is encoded as it is written.  Five schemes are
special; each has a port of its own, which is never written, and `file` stands apart.

Setting the path or the query replaces that part and leaves the others as they are.

    (u.withPath p).path = normal form of p        (u.withQuery q).query = q, encoded
-/

namespace CredentialGateway

/-- User name and password; a URL shows neither if both are empty. -/
structure UserInfo where
  name : Text := []
  password : Text := []
  deriving DecidableEq, Repr

/-- The part of a URL between `//` and the path. -/
structure Authority where
  user : UserInfo := {}
  host : Host
  /-- The port, unless it is the scheme's own. -/
  port : Option Nat := none
  deriving DecidableEq, Repr

structure Url where
  scheme : Text
  authority : Option Authority
  path : Text
  query : Option Text
  fragment : Option Text
  deriving DecidableEq, Repr

/-! ## Schemes -/

namespace Url

/-- The special schemes and their ports. -/
def schemePorts : List (Text × Option Nat) :=
  [("http", some 80), ("https", some 443), ("ws", some 80), ("wss", some 443), ("ftp", some 21),
    ("file", none)]

def isSpecialScheme (scheme : Text) : Bool := schemePorts.any (·.1 = scheme)

/-- The scheme's own port. -/
def defaultPort (scheme : Text) : Option Nat := (schemePorts.lookup scheme).join

end Url

/-! ## Written form -/

def UserInfo.text (u : UserInfo) : Text :=
  if u.name = [] && u.password = [] then []
  else u.name ++ (if u.password = [] then [] else ':' :: u.password) ++ ['@']

namespace Authority

/-- Host and port, as the `Host` header gives them. -/
def hostPort (a : Authority) : Text :=
  match a.port with
  | some port => a.host.text ++ ':' :: Text.ofNat port
  | none => a.host.text

def text (a : Authority) : Text := a.user.text ++ a.hostPort

end Authority

namespace Url

/-- The part of a URL behind a mark that is there only if the part is. -/
def marked (mark : Char) : Option Text → Text
  | some t => mark :: t
  | none => []

/-- What stands between the scheme and the path. -/
def lead (u : Url) : Text :=
  match u.authority with
  | some a => "//" ++ a.text
  | none =>
    if u.scheme = "file" then "//"
    else if "//".toList.isPrefixOf u.path then "/."
    else []

def text (u : Url) : Text :=
  u.scheme ++ ":" ++ u.lead ++ u.path ++ marked '?' u.query ++ marked '#' u.fragment

/-- The URL without user name and password. -/
def withoutUser (u : Url) : Url :=
  { u with authority := u.authority.map fun a => { a with user := {} } }

/-! ## Setting parts -/

/-- The normal form of a path under this scheme. -/
def normalPath (scheme path : Text) : Text :=
  if scheme = "file" then UrlPath.normalizeFile path
  else UrlPath.normalize (isSpecialScheme scheme) path

/-- The normal form of a query under this scheme. -/
def normalQuery (scheme query : Text) : Text :=
  Percent.encode (Percent.querySet (isSpecialScheme scheme)) (query.filter (!UrlPath.isIgnored ·))

def withPath (u : Url) (path : Text) : Url := { u with path := normalPath u.scheme path }

def withQuery (u : Url) (query : Option Text) : Url :=
  { u with query := query.map (normalQuery u.scheme) }

/-! ## The schemes of the web -/

section Web

variable {scheme : Text} (h : scheme = "http" ∨ scheme = "https")
include h

theorem normalPath_of_web (path : Text) : normalPath scheme path = UrlPath.normalize true path := by
  rcases h with rfl | rfl <;> rfl

theorem normalQuery_of_web (query : Text) : normalQuery scheme query =
    Percent.encode (Percent.querySet true) (query.filter (!UrlPath.isIgnored ·)) := by
  rcases h with rfl | rfl <;> rfl

end Web

end Url

end CredentialGateway
