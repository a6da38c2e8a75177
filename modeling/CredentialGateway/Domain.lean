import CredentialGateway.Domain.Label
import CredentialGateway.Domain.Mapping
import CredentialGateway.Domain.Punycode

/-!
# Domain names

A domain is written in ASCII: its characters are mapped, the text is composed, and each label that
is not in ASCII becomes `xn--` and its written form.  A label that is already in that form has to
stand for a label that would be written so.
-/

namespace CredentialGateway.Domain

/-- ASCII characters that no domain may hold. -/
def isForbidden (c : Char) : Bool :=
  c.toNat ≤ 0x20 || c.toNat == 0x7F ||
    ['%', '#', '/', ':', '<', '>', '?', '@', '[', '\\', ']', '^', '|'].contains c

def isAscii (c : Char) : Bool := c.toNat < 0x80

/-- What stands before the written form of a label. -/
def mark : Text := ['x', 'n', '-', '-']

/-- The label that a label of the form `xn--…` stands for. -/
def written? (t : Text) : Option Text := do
  if t.getLast? = some '-' || 2000 < t.length then none
  let label ← Punycode.decode? t
  if label.all isValid && composed label = label && !label.all isAscii then some label else none

/-- The label in full. -/
def label? (t : Text) : Option Text := do
  let label ← if mark.isPrefixOf t then written? (t.drop 4) else some t
  if Label.startsWithMark label || !Label.joinersFit [] label then none else some label

/-- The label in ASCII.  No label of more than 1000 characters is written out. -/
def asciiLabel? (t : Text) : Option Text :=
  if t.all isAscii then some t
  else if mark.isPrefixOf t || 1000 < t.length then none
  else some (mark ++ Punycode.encode t)

/-- Small letters and the dots between labels stand for themselves. -/
def isSettled (c : Char) : Bool := 'a' ≤ c && c ≤ 'z' || c == '.'

/-- The domain in ASCII, as the tables give it. -/
def lookedUp? (t : Text) : Option Text := do
  let plain := composed (← map? t)
  if plain.any isForbidden then none
  let labels := plain.splitOn '.'
  let full ← labels.mapM label?
  if full.any Label.isRightward && !full.all Label.keepsDirection then none
  return Text.join ['.'] (← labels.mapM asciiLabel?)

/-- The domain in ASCII.  Small letters and dots need no table. -/
def toAscii? (t : Text) : Option Text := if t.all isSettled then some t else lookedUp? t

end CredentialGateway.Domain
