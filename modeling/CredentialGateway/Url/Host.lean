import CredentialGateway.Domain
import CredentialGateway.Percent
import CredentialGateway.Url.Error
import CredentialGateway.Url.Ipv4
import CredentialGateway.Url.Ipv6

/-!
# Hosts

A host in square brackets is an IPv6 address.  Under the special schemes every other host is a
domain, percent-decoded and brought to ASCII, or an IPv4 address if it ends in a number.  Under
other schemes it stands as it is, with controls and non-ASCII characters percent-encoded.
-/

namespace CredentialGateway

inductive Host
  | domain (name : Text)
  | ipv4 (address : UInt32)
  | ipv6 (pieces : List Nat)
  deriving DecidableEq, Repr

namespace Host

def text : Host → Text
  | domain name => name
  | ipv4 address => Ipv4.text address
  | ipv6 pieces => '[' :: Ipv6.text pieces ++ [']']

/-- The address in square brackets. -/
def parseBracketed (t : Text) : Except UrlError Host :=
  if t.getLast? = some ']' then .ipv6 <$> Ipv6.parse t.dropLast else .error .ipv6

/-- A host under a special scheme. -/
def parse (t : Text) : Except UrlError Host :=
  match t with
  | '[' :: rest => parseBracketed rest
  | _ => do
    let some plain := Bytes.text? (Percent.decode t) | throw .domain
    let some name := Domain.toAscii? plain | throw .domain
    if name = [] then throw .emptyHost
    else if Ipv4.isMeant name then .ipv4 <$> Ipv4.parse name
    else return .domain name

/-- Characters that no host may hold, whatever the scheme. -/
def isForbidden (c : Char) : Bool :=
  ['\x00', '\t', '\n', '\r', ' ', '#', '/', ':', '<', '>', '?', '@', '[', '\\', ']', '^',
    '|'].contains c

/-- A host under a scheme that is not special. -/
def parsePlain (t : Text) : Except UrlError Host :=
  match t with
  | '[' :: rest => parseBracketed rest
  | _ => if t.any isForbidden then .error .hostCharacter
    else .ok (.domain (Percent.encode Percent.controlSet t))

end Host

end CredentialGateway
