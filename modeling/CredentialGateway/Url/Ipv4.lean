import CredentialGateway.Text.Hex
import CredentialGateway.Url.Error

/-!
# IPv4 addresses

An address has up to four numbers with dots between them, to base 10, 8 (a leading zero) or 16
(`0x`).  Each number but the last is a byte; the last one fills the bytes that are left.  It is
written as four decimal bytes.
-/

namespace CredentialGateway.Ipv4

/-- The number that the digits write to the given base, at most 10; no digits write zero. -/
def digits? (base : Nat) (t : Text) : Option Nat :=
  t.foldlM (fun n c =>
    if '0' ≤ c && c.toNat < 48 + base then some (base * n + (c.toNat - 48)) else none) 0

/-- One number of an address. -/
def number? : Text → Option Nat
  | [] => none
  | '0' :: x :: rest =>
    if x == 'x' || x == 'X' then (if rest = [] then some 0 else Hex.number? rest)
    else digits? 8 (x :: rest)
  | t => digits? 10 t

/-- The numbers between the dots; a dot at the end counts for nothing. -/
def parts (t : Text) : List Text :=
  let all := t.splitOn '.'
  if all.getLast? = some [] then all.dropLast else all

/-- A domain whose last part is a number is meant as an address. -/
def isMeant (t : Text) : Bool :=
  match (parts t).getLast? with
  | none => false
  | some last => (!last.isEmpty && last.all Char.isDigit) || (number? last).isSome

/-- The address that a text writes. -/
def parse (t : Text) : Except UrlError UInt32 :=
  if (parts t).length > 4 then .error .ipv4
  else match (parts t).mapM number? with
    | none => .error .ipv4
    | some numbers =>
      let bytes := numbers.dropLast
      let last := numbers.getLast?.getD 0
      if bytes.all (· < 256) && last < Nat.pow 256 (4 - bytes.length) then
        let front := bytes.foldl (256 * · + ·) 0
        .ok (UInt32.ofNat (front * Nat.pow 256 (4 - bytes.length) + last))
      else .error .ipv4

/-- The address as four bytes. -/
def text (a : UInt32) : Text :=
  Text.join "." ([24, 16, 8, 0].map fun shift => Text.ofNat (a.toNat >>> shift % 256))

end CredentialGateway.Ipv4
