import CredentialGateway.Decimal.Binary64

/-!
# TOML values

A table keeps its entries in the order in which the document gives them, and remembers how it came
to be: that decides whether later lines may add to it.
-/

namespace CredentialGateway.Toml

/-- How a table came to be. -/
inductive Origin
  /-- Written between braces, and complete. -/
  | closed
  /-- Named by a header. -/
  | header
  /-- Passed through by a header that names a table in it. -/
  | implied
  /-- Made by a dotted key. -/
  | dotted
  deriving DecidableEq, Repr

/-- A value.  An array of tables that headers add to is `growing`. -/
inductive Value
  | string (t : Text)
  | integer (n : Int)
  | float (x : Binary64)
  | boolean (b : Bool)
  | dateTime
  | array (growing : Bool) (items : List Value)
  | table (origin : Origin) (entries : List (Text × Value))

abbrev Entries := List (Text × Value)

/-- A reader takes what it reads from the front of the text and gives back the rest. -/
abbrev Reader (α : Type) := Text → Option (α × Text)

end CredentialGateway.Toml
