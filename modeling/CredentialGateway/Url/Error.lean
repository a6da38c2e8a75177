import CredentialGateway.Text

/-!
# Faults of a URL
-/

namespace CredentialGateway

/-- The cause why a text is no URL. -/
inductive UrlError
  | noScheme
  | emptyHost
  | domain
  | hostCharacter
  | ipv4
  | ipv6
  | port
  deriving DecidableEq, Repr

def UrlError.message : UrlError → Text
  | noScheme => "relative URL without a base"
  | emptyHost => "empty host"
  | domain => "invalid international domain name"
  | hostCharacter => "invalid domain character"
  | ipv4 => "invalid IPv4 address"
  | ipv6 => "invalid IPv6 address"
  | port => "invalid port number"

end CredentialGateway
