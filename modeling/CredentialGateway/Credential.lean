import CredentialGateway.Header.Basic
import CredentialGateway.Log.Event
import CredentialGateway.Text.Quoted

/-!
# The credential

The credential comes from an environment variable.  A variable that is not set or is no text
counts as the empty credential, which is a credential too: requests then carry a bare
`Authorization: Bearer `, and the caller sees the refusal of the service itself.

The header that carries the credential is hidden from diagnostics.  A secret that no header value
can hold is replaced by the empty one.
-/

namespace CredentialGateway

/-- The secret that is put into every forwarded request. -/
structure Credential where
  secret : Text
  deriving DecidableEq

/-- The reason why a variable gives no text. -/
inductive VariableError
  | notSet
  | notText (value : Bytes)
  deriving DecidableEq

namespace VariableError

def message : VariableError → Text
  | notSet => "environment variable not found"
  | notText value => "environment variable was not valid unicode: ".toList ++ Text.quotedBytes value

end VariableError

namespace Credential

/-! ## Algorithm -/

def isEmpty (c : Credential) : Bool := c.secret.isEmpty

/-- A name that the environment can hold: not empty, without `=` and without NUL. -/
def isVariableName (name : Text) : Bool :=
  !name.isEmpty && !name.contains '=' && !name.contains '\x00'

/-- The text of a variable, given what the environment holds under its name. -/
def readVariable (name : Text) (value : Option Bytes) : Except VariableError Text :=
  match value with
  | none => .error .notSet
  | some bytes =>
    if isVariableName name then
      match Bytes.text? bytes with
      | some t => .ok t
      | none => .error (.notText bytes)
    else .error .notSet

/-- The credential that a variable holds, and the event that reports where it came from. -/
def ofVariable (name : Text) (value : Option Bytes) : Credential × Log.Event :=
  match readVariable name value with
  | .ok secret => (⟨secret⟩, .credentialLoaded name)
  | .error e => (⟨[]⟩, .credentialUnavailable name e.message)

/-- The scheme of the header value, with the blank that ends it. -/
def bearer : Text := "Bearer "

/-- The value for a secret that fits in no header. -/
def bareHeader : HeaderValue := ⟨bearer.utf8, true, by decide⟩

/-- The value of the `Authorization` header, and what is reported in making it. -/
def header (c : Credential) : HeaderValue × List Log.Event :=
  match HeaderValue.ofText? (bearer ++ c.secret) with
  | some v => (v.hidden, [])
  | none => (bareHeader, [.credentialUnfit])

/-- What diagnostics show in place of a credential. -/
def shown (_ : Credential) : Text := "Credential \x7b secret: \"[REDACTED]\" \x7d"

/-! ## Lemmas -/

/-- What is shown does not depend on the secret. -/
theorem shown_eq (a b : Credential) : a.shown = b.shown := rfl

end Credential

end CredentialGateway
