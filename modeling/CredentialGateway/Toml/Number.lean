import CredentialGateway.Text.Hex
import CredentialGateway.Toml.Value

/-!
# Numbers

Integers of 64 bits to base 10, 16, 8 or 2, and binary fractions.  Digits may be parted by single
underscores; no decimal integer starts with a zero that is not its only digit.
-/

namespace CredentialGateway.Toml.Number

/-- One more digit in front of what is read from the rest. -/
def prepend (c : Char) : Text × Text → Text × Text
  | (ds, rest) => (c :: ds, rest)

/-- Reads further digits, a single underscore before each at most. -/
def moreDigits (isDigit : Char → Bool) : Text → Text × Text
  | '_' :: c :: rest =>
    if isDigit c then prepend c (moreDigits isDigit rest) else ([], '_' :: c :: rest)
  | c :: rest => if isDigit c then prepend c (moreDigits isDigit rest) else ([], c :: rest)
  | [] => ([], [])

/-- Reads a run of digits. -/
def digits (isDigit : Char → Bool) : Reader Text
  | c :: rest => if isDigit c then some (prepend c (moreDigits isDigit rest)) else none
  | [] => none

def isDigitBelow (base : Nat) (c : Char) : Bool := (Hex.digit? c).any (· < base)

/-- The number that digits write to a base. -/
def number (base : Nat) (t : Text) : Nat := t.foldl (fun n c => base * n + (Hex.digit? c).getD 0) 0

/-- An integer must fit in 64 bits. -/
def integer? (n : Int) : Option Value :=
  if -0x8000000000000000 ≤ n && n < 0x8000000000000000 then some (.integer n) else none

/-- Reads the digits of an integer to base 10. -/
def wholePart : Reader Text
  | '0' :: rest => some (['0'], rest)
  | t => digits Char.isDigit t

/-- Reads the digits after a point, if there is one. -/
def fraction : Reader Text
  | '.' :: rest => digits Char.isDigit rest
  | t => some ([], t)

/-- Reads a decimal exponent, if there is one. -/
def exponent : Reader Int
  | c :: rest =>
    if c == 'e' || c == 'E' then
      let (negative, rest) := match rest with
        | '-' :: r => (true, r)
        | '+' :: r => (false, r)
        | r => (false, r)
      (digits Char.isDigit rest).map fun (ds, r) =>
        ((if negative then -(number 10 ds : Int) else number 10 ds), r)
    else some (0, c :: rest)
  | [] => some (0, [])

/-- The digits' values. -/
def values (ds : Text) : List Nat := ds.map fun c => c.toNat - 48

/-- Reads a decimal number behind its sign.  Only a negative number may leave the range. -/
def decimal (negative : Bool) : Reader Value := fun t => do
  let (whole, t) ← wholePart t
  let (behind, t') ← fraction t
  let (e, t') ← exponent t'
  if t'.length = t.length then
    let n : Int := number 10 whole
    return (← integer? (if negative then -n else n), t)
  else
    let x := Binary64.ofDecimal negative (values (whole ++ behind)) (e - behind.length)
    if x = .infinite false then none else return (.float x, t')

/-- Reads what may follow a sign. -/
def signed (negative : Bool) : Reader Value
  | 'i' :: 'n' :: 'f' :: rest => some (.float (.infinite negative), rest)
  | 'n' :: 'a' :: 'n' :: rest => some (.float .nan, rest)
  | t => decimal negative t

/-- Reads an integer to a base other than 10. -/
def inBase (base : Nat) : Reader Value := fun t => do
  let (ds, rest) ← digits (isDigitBelow base) t
  return (← integer? (number base ds), rest)

def read : Reader Value
  | '0' :: 'x' :: rest => inBase 16 rest
  | '0' :: 'o' :: rest => inBase 8 rest
  | '0' :: 'b' :: rest => inBase 2 rest
  | '+' :: rest => signed false rest
  | '-' :: rest => signed true rest
  | t => signed false t

end CredentialGateway.Toml.Number
