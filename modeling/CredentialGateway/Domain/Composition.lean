import CredentialGateway.Domain.CompositionTable

/-!
# The composed form of a text

Characters that stand for several are taken apart, the marks behind a letter are put in order, and
then the marks are joined to their letter again as far as the table goes.  Two texts that look the
same get the same composed form.

A mark is joined to the last letter if no mark of the same or a higher class stands between.  The
syllables of Hangul are not in the table: the three parts of one give its code point.
-/

namespace CredentialGateway.Domain

/-- The combining class of a character; zero for those that stand by themselves. -/
def combiningClass (c : Char) : Nat :=
  match combiningClasses.find? fun row => CodeRange.contain row.2 c.toNat with
  | some row => row.1
  | none => 0

/-! ## Hangul -/

namespace Hangul

/-- The parts of a syllable: a leading consonant, a vowel, and a trailing consonant if there is
one. -/
def parts? (c : Char) : Option Text :=
  let n := c.toNat
  if 0xAC00 ≤ n && n < 0xAC00 + 11172 then
    let s := n - 0xAC00
    let open_ := [Char.ofNat (0x1100 + s / 588), Char.ofNat (0x1161 + s % 588 / 28)]
    some (if s % 28 = 0 then open_ else open_ ++ [Char.ofNat (0x11A7 + s % 28)])
  else none

/-- The syllable of a leading consonant and a vowel, or of a syllable without a trailing consonant
and that consonant. -/
def join? (a b : Char) : Option Char :=
  let (m, n) := (a.toNat, b.toNat)
  if 0x1100 ≤ m && m < 0x1113 && 0x1161 ≤ n && n < 0x1176 then
    some (Char.ofNat (0xAC00 + (m - 0x1100) * 588 + (n - 0x1161) * 28))
  else if 0xAC00 ≤ m && m < 0xAC00 + 11172 && (m - 0xAC00) % 28 = 0 && 0x11A8 ≤ n && n < 0x11C3 then
    some (Char.ofNat (m + (n - 0x11A7)))
  else none

end Hangul

/-! ## Taking apart -/

/-- The characters that a character stands for at once. -/
def parts (c : Char) : Text :=
  match Hangul.parts? c with
  | some t => t
  | none =>
    match compositions.find? (·.whole = c.toNat) with
    | some row => [Char.ofNat row.first, Char.ofNat row.second]
    | none => [c]

/-- A character stands for at most a letter and three marks, which come off one by one. -/
def takenApart (t : Text) : Text :=
  ((t.flatMap parts).flatMap parts).flatMap parts

/-- Marks in the order of their classes; marks of one class stay in order. -/
def sortMarks (marks : Text) : Text :=
  (marks.map fun c => (combiningClass c, c)).mergeSort (fun a b => a.1 ≤ b.1) |>.map (·.2)

/-- The text with each run of marks in order.  `marks` is the run so far, back to front. -/
def ordered (marks : Text) : Text → Text
  | [] => sortMarks marks.reverse
  | c :: rest =>
    if combiningClass c = 0 then sortMarks marks.reverse ++ c :: ordered [] rest
    else ordered (c :: marks) rest

/-! ## Joining -/

/-- The character that stands for two. -/
def join? (a b : Char) : Option Char :=
  match Hangul.join? a b with
  | some c => some c
  | none =>
    (compositions.find? fun row => row.first = a.toNat && row.second = b.toNat).map fun row =>
      Char.ofNat row.whole

/-- A letter and the marks behind it that are not joined to it, back to front. -/
structure Cluster where
  letter : Option Char
  marks : Text

namespace Cluster

def text (k : Cluster) : Text := k.letter.toList ++ k.marks.reverse

/-- Nothing stands between the letter and a character of class `n` behind the marks. -/
def reaches (k : Cluster) (n : Nat) : Bool :=
  match k.marks with
  | [] => true
  | c :: _ => combiningClass c < n

/-- The letter joined with the character, if they can be. -/
def join? (k : Cluster) (c : Char) : Option Cluster := do
  let a ← k.letter
  let whole ← Domain.join? a c
  if k.reaches (combiningClass c) then some { k with letter := some whole } else none

end Cluster

/-- The text with its letters and marks joined, after the cluster `k`. -/
def joined (k : Cluster) : Text → Text
  | [] => k.text
  | c :: rest =>
    match k.join? c with
    | some k => joined k rest
    | none =>
      if combiningClass c = 0 then k.text ++ joined ⟨some c, []⟩ rest
      else joined { k with marks := c :: k.marks } rest

/-- The composed form of a text. -/
def composed (t : Text) : Text := joined ⟨none, []⟩ (ordered [] (takenApart t))

end CredentialGateway.Domain
