import CredentialGateway.Text

/-!
# Text in ASCII letters, digits and hyphens

A text is written as its ASCII characters, a hyphen if there are any, and then one number for each
other character, in order of code points.  The number says how many steps the insertion of the
character is away from the one before, where a step moves on by one place, and at the end of the
text to the next code point.

A number is written to base 36, its lowest digit first.  A digit below the threshold of its place
is the last one, and the thresholds move with the sizes of the numbers so far (`adapt`).

Every loop ends by a measure: `shrink` divides by 35, `digits` divides by at least 10 (a threshold
is 1 to 26), and reading a number leaves less text than before.
-/

namespace CredentialGateway.Punycode

/-! ## Digits and thresholds -/

/-- The digit of a value below 36: a letter, then a decimal digit. -/
def digitChar (d : Nat) : Char := Char.ofNat (if d < 26 then 97 + d else 22 + d)

/-- The value of a digit. -/
def digitValue? (c : Char) : Option Nat :=
  if 'a' ≤ c && c ≤ 'z' then some (c.toNat - 97)
  else if 'A' ≤ c && c ≤ 'Z' then some (c.toNat - 65)
  else if '0' ≤ c && c ≤ '9' then some (c.toNat - 22)
  else none

/-- The threshold of the place `k`, which counts up from 36 in steps of 36. -/
def threshold (k bias : Nat) : Nat :=
  if k ≤ bias then 1 else if bias + 26 ≤ k then 26 else k - bias

theorem threshold_pos (k bias : Nat) : 1 ≤ threshold k bias := by
  unfold threshold; split
  · omega
  · split <;> omega

theorem threshold_le (k bias : Nat) : threshold k bias ≤ 26 := by
  unfold threshold; split
  · omega
  · split <;> omega

/-- Divides a number by 35 until it is below 456, and counts 36 for each division. -/
def shrink (n bias : Nat) : Nat × Nat :=
  if 455 < n then shrink (n / 35) (bias + 36) else (n, bias)
termination_by n
decreasing_by exact Nat.div_lt_self (by omega) (by omega)

/-- The bias after a number, for a text of `length` characters. -/
def adapt (number length : Nat) (first : Bool) : Nat :=
  let n := if first then number / 700 else number / 2
  let (n, bias) := shrink (n + n / length) 0
  bias + 36 * n / (n + 38)

/-! ## Writing -/

/-- The digits of a number from the place `k` on. -/
def digits (bias k n : Nat) : Text :=
  let t := threshold k bias
  if n < t then [digitChar n]
  else digitChar (t + (n - t) % (36 - t)) :: digits bias (k + 36) ((n - t) / (36 - t))
termination_by n
decreasing_by
  have := threshold_pos k bias
  calc (n - threshold k bias) / (36 - threshold k bias)
      ≤ n - threshold k bias := Nat.div_le_self _ _
    _ < n := by omega

/-- What is written so far: the text, the steps since the last insertion, the bias, the number of
characters that are in place. -/
structure Written where
  text : Text
  steps : Nat
  bias : Nat
  placed : Nat

/-- Passes one character of the text while `code` is being inserted.  `ascii` is the number of
ASCII characters. -/
def pass (ascii code : Nat) (w : Written) (c : Char) : Written :=
  if c.toNat < code then { w with steps := w.steps + 1 }
  else if c.toNat = code then
    ⟨w.text ++ digits w.bias 36 w.steps, 0,
      adapt w.steps (w.placed + 1) (w.placed = ascii), w.placed + 1⟩
  else w

/-- Inserts the code points of a list, which rises; `next` is the code point that is reached. -/
def insertCodes (t : Text) (ascii : Nat) : List Nat → Nat → Written → Written
  | [], _, w => w
  | code :: codes, next, w =>
    let w := { w with steps := w.steps + (code - next) * (w.placed + 1) }
    let w := t.foldl (pass ascii code) w
    insertCodes t ascii codes (code + 1) { w with steps := w.steps + 1 }

/-- The numbers of a list in rising order, each of them once. -/
def rising (ns : List Nat) : List Nat := (ns.mergeSort (· ≤ ·)).eraseReps

/-- The text in ASCII. -/
def encode (t : Text) : Text :=
  let ascii := t.filter (·.toNat < 0x80)
  let codes := rising ((t.filter (0x80 ≤ ·.toNat)).map Char.toNat)
  let start : Text := if ascii = [] then [] else ascii ++ ['-']
  (insertCodes t ascii.length codes 0x80 ⟨start, 0, 72, ascii.length⟩).text

/-! ## Reading -/

/-- Reads a number from the place `k` on, where a step counts `weight`, adds it to `n` and gives
the rest.  The weights stay below 2^32. -/
def number? (bias : Nat) : Text → Nat → Nat → Nat → Option (Nat × Text)
  | [], _, _, _ => none
  | c :: rest, k, weight, n =>
    match digitValue? c with
    | none => none
    | some d =>
      let t := threshold k bias
      if d < t then some (n + d * weight, rest)
      else if weight * (36 - t) < 0x100000000 then
        number? bias rest (k + 36) (weight * (36 - t)) (n + d * weight)
      else none

theorem length_of_number? {bias : Nat} {t : Text} {k weight n m : Nat} {r : Text}
    (h : number? bias t k weight n = some (m, r)) : r.length < t.length := by
  induction t generalizing k weight n with
  | nil => simp [number?] at h
  | cons c rest ih =>
    simp only [number?] at h
    split at h
    · simp at h
    · split at h
      · simp at h; simp [h.2]
      · split at h
        · have := ih h; simp; omega
        · simp at h

/-- Reads insertions into a text; `code` is the code point that is reached, `place` the place. -/
def insertions (bias code place : Nat) (text : Text) : Text → Option Text
  | [] => some text
  | c :: rest =>
    match _h : number? bias (c :: rest) 36 1 place with
    | none => none
    | some (n, rest') =>
      let length := text.length + 1
      let code := code + n / length
      if code.isValidChar then
        insertions (adapt (n - place) length (place = 0)) code (n % length + 1)
          (text.insertIdx (n % length) (Char.ofNat code)) rest'
      else none
termination_by t => t.length
decreasing_by exact length_of_number? _h

/-- The part before the last hyphen and the part behind it.  A hyphen at the start parts nothing. -/
def parts (t : Text) : Text × Text :=
  match t.reverse.span (· != '-') with
  | (_, []) => ([], t)
  | (_, [_]) => ([], t)
  | (after, _ :: before) => (before.reverse, after.reverse)

/-- The text that is written so. -/
def decode? (t : Text) : Option Text :=
  let (ascii, numbers) := parts t
  insertions 72 0x80 0 ascii numbers

end CredentialGateway.Punycode
