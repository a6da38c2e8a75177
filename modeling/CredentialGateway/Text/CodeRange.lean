import CredentialGateway.Text.Hex

/-!
# Ranges of code points

The classes of characters that a standard fixes are written as ranges of hexadecimal code points:
a single number, or two of them with a hyphen between, blanks between the ranges.
-/

namespace CredentialGateway

/-- The code points from `first` to `last`. -/
structure CodeRange where
  first : Nat
  last : Nat
  deriving DecidableEq, Repr

namespace CodeRange

/-- Both ends of one range. -/
def ofText? (t : Text) : Option CodeRange := do
  match Text.cut '-' t with
  | (a, some b) => return ⟨← Hex.number? a, ← Hex.number? b⟩
  | (a, none) => return ⟨← Hex.number? a, ← Hex.number? a⟩

/-- The ranges that the rows of a table list. -/
def ofRows (rows : List String) : List CodeRange :=
  rows.flatMap fun row => (row.toList.splitOn ' ').filterMap ofText?

/-- Some range holds the code point. -/
def contain (ranges : List CodeRange) (n : Nat) : Bool :=
  ranges.any fun r => r.first ≤ n && n ≤ r.last

end CodeRange

end CredentialGateway
