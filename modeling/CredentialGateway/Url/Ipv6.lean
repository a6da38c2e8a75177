import CredentialGateway.Text.Hex
import CredentialGateway.Url.Error

/-!
# IPv6 addresses

An address has eight pieces of up to four digits to base 16, with colons between them.  `::` may
stand once for one or more pieces that are zero; the last two pieces may be written as four decimal
bytes.  When an address is written, `::` stands for the first of the longest runs of at least two
zeros.
-/

namespace CredentialGateway.Ipv6

/-- The parts before and after the first `::`. -/
def splitGap : Text → Option (Text × Text)
  | [] => none
  | ':' :: ':' :: rest => some ([], rest)
  | c :: rest => (splitGap rest).map fun (a, b) => (c :: a, b)

/-- A piece to base 16. -/
def piece? (t : Text) : Option Nat := if t.length ≤ 4 then Hex.number? t else none

/-- A decimal byte without leading zeros. -/
def byte? (t : Text) : Option Nat :=
  if t = [] || !t.all Char.isDigit || (t.length > 1 && t.head? = some '0') || t.length > 3 then none
  else
    let n := t.foldl (fun n c => 10 * n + (c.toNat - 48)) 0
    if n < 256 then some n else none

/-- The two pieces that four decimal bytes stand for. -/
def dotted? (t : Text) : Option (List Nat) := do
  match ← (t.splitOn '.').mapM byte? with
  | [a, b, c, d] => some [256 * a + b, 256 * c + d]
  | _ => none

/-- The pieces between the colons; where the address ends, decimal bytes may stand. -/
def pieces? (atEnd : Bool) (t : Text) : Option (List Nat) :=
  if t = [] then some []
  else
    let parts := t.splitOn ':'
    match (parts.dropLast).mapM piece?, parts.getLast? with
    | some front, some last =>
      if atEnd && last.contains '.' then (dotted? last).map (front ++ ·)
      else (piece? last).map fun p => front ++ [p]
    | _, _ => none

/-- The eight pieces of the address that a text writes. -/
def parse (t : Text) : Except UrlError (List Nat) :=
  let pieces := match splitGap t with
    | none => do
      let all ← pieces? true t
      if all.length = 8 then some all else none
    | some (a, b) => do
      let front ← pieces? false a
      let back ← pieces? true b
      if front.length + back.length ≤ 7 then
        some (front ++ List.replicate (8 - front.length - back.length) 0 ++ back)
      else none
  match pieces with
  | some p => .ok p
  | none => .error .ipv6

/-- How many zeros the list starts with. -/
def zeros (pieces : List Nat) : Nat := (pieces.takeWhile (· = 0)).length

/-- Where the first of the longest runs of zeros starts, and how long it is. -/
def longestGap : Nat → List Nat → Nat × Nat
  | i, [] => (i, 0)
  | i, p :: rest =>
    let here := zeros (p :: rest)
    let later := longestGap (i + 1) rest
    if here ≥ later.2 then (i, here) else later

/-- The pieces to base 16, with colons between them. -/
def colons (pieces : List Nat) : Text := Text.join ":" (pieces.map Hex.ofNat)

def text (pieces : List Nat) : Text :=
  let (start, length) := longestGap 0 pieces
  if length < 2 then colons pieces
  else colons (pieces.take start) ++ "::" ++ colons (pieces.drop (start + length))

end CredentialGateway.Ipv6
