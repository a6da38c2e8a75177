import CredentialGateway.Text

/-!
# Binary fractions of 53 bits

A finite number is `m · 2^e` with `m < 2^53` and `-1074 ≤ e ≤ 971`; apart from the smallest ones
it has all 53 bits.  `nearest?` rounds a ratio to the nearest such number, a half to the even
neighbour.

`shortest` finds the fewest decimal digits that read back as the number: a grid of decimals is
fine enough as soon as one of the number's two neighbours on it lies in the interval that rounds
to the number.
-/

namespace CredentialGateway

inductive Binary64
  | nan
  | infinite (negative : Bool)
  | finite (negative : Bool) (m : Nat) (e : Int)
  deriving DecidableEq, Repr

namespace Binary64

/-! ## Rounding a ratio -/

/-- The power of two for a positive exponent, one for others. -/
def up (e : Int) : Nat := Nat.pow 2 e.toNat

/-- The power of ten for a positive exponent, one for others. -/
def tenUp (e : Int) : Nat := Nat.pow 10 e.toNat

/-- The least number of 53 bits. -/
def least53 : Nat := 0x10000000000000

/-- The ratio `n / d` in units of `2^e`, rounded down, and whether the rest rounds up. -/
def quotient (n d : Nat) (e : Int) : Nat × Bool :=
  let num := n * up (-e)
  let den := d * up e
  let q := num / den
  let r := num % den
  (q, 2 * r > den || (2 * r == den && q % 2 == 1))

/-- The exponent of the last bit of a number near `n / d`. -/
def lastPlace (n d : Nat) : Int :=
  let e : Int := n.log2 - d.log2 - 52
  max (if (quotient n d e).1 < least53 then e - 1 else e) (-1074)

/-- The magnitude nearest to `n / d`, if it is in range. -/
def nearest? (n d : Nat) : Option (Nat × Int) :=
  let e := lastPlace n d
  let (q, roundUp) := quotient n d e
  let m := if roundUp then q + 1 else q
  let (m, e) := if m = 2 * least53 then (least53, e + 1) else (m, e)
  if e > 971 then none else some (m, e)

/-- Decimal exponents beyond this leave the range on either side. -/
def decimalRange : Int := 400

/-- The number `digits · 10^p`.  Out of range it is infinite. -/
def ofDecimal (negative : Bool) (digits : List Nat) (p : Int) : Binary64 :=
  let digits := digits.dropWhile (· = 0)
  let size : Int := digits.length + p
  if digits = [] || size < -decimalRange then finite negative 0 (-1074)
  else if size > decimalRange then infinite negative
  else
    let n := digits.foldl (10 * · + ·) 0
    match nearest? (n * tenUp p) (tenUp (-p)) with
    | some (m, e) => finite negative m e
    | none => infinite negative

/-! ## Shortest digits -/

/-- The interval that rounds to `m · 2^e`, its ends in units of `2^(e-2)`. -/
def interval (m : Nat) (e : Int) : Nat × Nat :=
  (if m = least53 && e > -1074 then 4 * m - 1 else 4 * m - 2, 4 * m + 2)

/-- How many digits stand before the point; zero or less if the number is below one. -/
def pointPlace (num den : Nat) : Int :=
  if den ≤ num then (Nat.toDigits 10 (num / den)).length
  else
    let k : Int := 1 - (Nat.toDigits 10 (den / num)).length
    if num * tenUp (-k) < den then k else k + 1

/-- The digits and the decimal exponent of `m · 2^e` with `n` digits, if so many are enough. -/
def withDigits? (m : Nat) (e : Int) (n : Nat) : Option (Nat × Int) :=
  let scale := up (e - 2)
  let den := up (2 - e)
  let p := pointPlace (4 * m * scale) den - n
  let unit := tenUp p * den
  let grain := tenUp (-p)
  let value := 4 * m * scale * grain
  let low := (interval m e).1 * scale * grain
  let high := (interval m e).2 * scale * grain
  let below := value / unit
  let above := below + 1
  let hitBelow := low < below * unit || (low == below * unit && m % 2 == 0)
  let hitAbove := above * unit < high || (above * unit == high && m % 2 == 0)
  if hitBelow && hitAbove then
    some (if value - below * unit < above * unit - value then below else above, p)
  else if hitBelow then some (below, p)
  else if hitAbove then some (above, p)
  else none

/-- Seventeen digits always suffice. -/
def shortest (m : Nat) (e : Int) : Nat × Int :=
  ((List.range 17).findSome? fun i => withDigits? m e (i + 1)).getD (0, 0)

/-! ## Written form -/

/-- Digits and a decimal exponent written out in full, with at least one digit after the point. -/
def positional (digits : Text) (p : Int) : Text :=
  let point : Int := digits.length + p
  if point ≤ 0 then "0." ++ List.replicate (-point).toNat '0' ++ digits
  else if 0 ≤ p then digits ++ List.replicate p.toNat '0' ++ ".0"
  else digits.take point.toNat ++ "." ++ digits.drop point.toNat

/-- The digits without zeros at the end, and the exponent that makes up for them. -/
def trimZeros (digits : Text) (p : Int) : Text × Int :=
  let kept := Text.dropTrailing '0' digits
  (kept, p + (digits.length - kept.length : Nat))

/-- The number as diagnostics show it. -/
def text : Binary64 → Text
  | nan => "NaN"
  | infinite negative => (if negative then ['-'] else []) ++ "inf"
  | finite negative m e =>
    (if negative then ['-'] else []) ++
      if m = 0 then "0.0".toList
      else
        let (c, p) := shortest m e
        let (digits, p) := trimZeros (Text.ofNat c) p
        positional digits p

end Binary64

end CredentialGateway
