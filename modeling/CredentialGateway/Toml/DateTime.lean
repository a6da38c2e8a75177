import CredentialGateway.Toml.Value

/-!
# Dates and times

A date, a time, or both with an optional offset.  The day must exist in its month; a second may be
the sixtieth.  What the date says is not kept.
-/

namespace CredentialGateway.Toml.DateTime

/-- Reads exactly `n` digits. -/
def digits : Nat → Reader Nat
  | 0, t => some (0, t)
  | n + 1, c :: rest =>
    if c.isDigit then (digits n rest).map fun (v, r) => ((c.toNat - 48) * Nat.pow 10 n + v, r) else none
  | _ + 1, [] => none

/-- Reads a number of two digits between the bounds. -/
def twoDigits (least most : Nat) : Reader Nat := fun t => do
  let (n, rest) ← digits 2 t
  if least ≤ n && n ≤ most then some (n, rest) else none

/-- Reads one of the characters. -/
def oneOf (cs : List Char) : Reader Char
  | c :: rest => if cs.contains c then some (c, rest) else none
  | [] => none

def isLeapYear (y : Nat) : Bool := y % 4 == 0 && (y % 100 != 0 || y % 400 == 0)

def daysIn (year month : Nat) : Nat :=
  if month = 2 then (if isLeapYear year then 29 else 28)
  else if month = 4 || month = 6 || month = 9 || month = 11 then 30
  else 31

def date : Reader Unit := fun t => do
  let (year, t) ← digits 4 t
  let (_, t) ← oneOf ['-'] t
  let (month, t) ← twoDigits 1 12 t
  let (_, t) ← oneOf ['-'] t
  let (_, t) ← twoDigits 1 (daysIn year month) t
  return ((), t)

/-- Hours and minutes. -/
def hourMinute : Reader Unit := fun t => do
  let (_, t) ← twoDigits 0 23 t
  let (_, t) ← oneOf [':'] t
  let (_, t) ← twoDigits 0 59 t
  return ((), t)

def time : Reader Unit := fun t => do
  let (_, t) ← hourMinute t
  let (_, t) ← oneOf [':'] t
  let (_, t) ← twoDigits 0 60 t
  match t with
  | '.' :: c :: rest => if c.isDigit then some ((), rest.dropWhile Char.isDigit) else none
  | '.' :: [] => none
  | _ => some ((), t)

/-- Nothing, `Z`, or a distance in hours and minutes. -/
def offset : Reader Unit := fun t =>
  match t with
  | [] => some ((), [])
  | c :: rest =>
    if c == 'Z' || c == 'z' then some ((), rest)
    else if c == '+' || c == '-' then hourMinute rest
    else some ((), t)

/-- The time and offset behind a date, if there are any. -/
def timeBehind (t : Text) : Option Text := do
  let (_, t) ← oneOf ['T', 't', ' '] t
  let (_, t) ← time t
  let (_, t) ← offset t
  return t

/-- Reads a date, a time, or both. -/
def read : Reader Unit := fun t =>
  match date t with
  | some (_, rest) => some ((), (timeBehind rest).getD rest)
  | none => time t

end CredentialGateway.Toml.DateTime
