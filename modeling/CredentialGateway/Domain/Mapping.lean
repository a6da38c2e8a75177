import CredentialGateway.Domain.MappingTable

/-!
# What a domain is looked up by

Each character is kept, mapped to others, dropped, or makes the domain invalid.
-/

namespace CredentialGateway.Domain

/-- The character may not stand in a domain. -/
def isDisallowed (c : Char) : Bool := CodeRange.contain disallowed c.toNat

/-- What stands for a character, if it is mapped or dropped. -/
def image? (c : Char) : Option Text :=
  if CodeRange.contain ignored c.toNat then some []
  else (mappingRows.findSome? (·.imageOf? c.toNat)).map fun codes => codes.map Char.ofNat

/-- The character stands for itself. -/
def isValid (c : Char) : Bool := !isDisallowed c && (image? c).isNone

/-- The mapped text, unless it holds a character that may not stand there. -/
def map? (t : Text) : Option Text :=
  if t.any isDisallowed then none else some (t.flatMap fun c => (image? c).getD [c])

end CredentialGateway.Domain
