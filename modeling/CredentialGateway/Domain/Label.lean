import CredentialGateway.Domain.CompositionTable
import CredentialGateway.Domain.DirectionTable
import CredentialGateway.Domain.Composition

/-!
# What a label of a domain may be

A label does not start with a mark.  A joiner in it stands where the script asks for one: behind a
virama, or, for the one that keeps letters apart, between letters that would join.

If any letter of the domain is written from right to left, each label keeps to one direction: its
first character gives it, the characters between agree with it, and the last one but for marks does.
-/

namespace CredentialGateway.Domain

/-- The direction of a character. -/
def direction (c : Char) : Direction :=
  match directions.find? fun row => CodeRange.contain row.2 c.toNat with
  | some row => row.1
  | none => .left

/-- How a character joins. -/
def joining (c : Char) : Joining :=
  match joinings.find? fun row => CodeRange.contain row.2 c.toNat with
  | some row => row.1
  | none => .none

/-- Joins the vowel that is left out to the next letter. -/
def isVirama (c : Char) : Bool := combiningClass c = 9

namespace Label

/-- The label starts with a mark. -/
def startsWithMark : Text → Bool
  | [] => false
  | c :: _ => CodeRange.contain marks c.toNat

/-! ## Joiners -/

/-- The first character that is not transparent joins on one of these sides. -/
def meets (sides : List Joining) (t : Text) : Bool :=
  match (t.map joining).dropWhile (· = .transparent) with
  | [] => false
  | j :: _ => sides.contains j

/-- The joiner `c` may stand between `before`, back to front, and `after`. -/
def joinerFits (c : Char) (before after : Text) : Bool :=
  before.head?.any isVirama ||
    c.toNat = 0x200C && meets [.left, .both] before && meets [.right, .both] after

/-- Every joiner stands where it may.  `before` is the text so far, back to front. -/
def joinersFit (before : Text) : Text → Bool
  | [] => true
  | c :: rest =>
    (!(c.toNat = 0x200C || c.toNat = 0x200D) || joinerFits c before rest) &&
      joinersFit (c :: before) rest

/-! ## Direction -/

/-- The direction of the last character that is no mark. -/
def lastDirection? (ds : List Direction) : Option Direction :=
  (ds.reverse.dropWhile (· = .mark)).head?

/-- Characters that may stand in a label whatever its direction. -/
def isIndifferent : Direction → Bool
  | .europeanNumber | .europeanSeparator | .commonSeparator | .europeanTerminator
  | .neutral | .boundary | .mark => true
  | _ => false

/-- A label that is written from right to left keeps to that. -/
def keepsRight (ds : List Direction) : Bool :=
  ds.all (fun d => isIndifferent d || d = .right || d = .arabic || d = .arabicNumber) &&
    (match lastDirection? ds with
    | some d => d = .right || d = .arabic || d = .europeanNumber || d = .arabicNumber
    | none => false) &&
    !(ds.contains .europeanNumber && ds.contains .arabicNumber)

/-- A label that is written from left to right keeps to that. -/
def keepsLeft (ds : List Direction) : Bool :=
  ds.all (fun d => isIndifferent d || d = .left) &&
    match lastDirection? ds with
    | some d => d = .left || d = .europeanNumber
    | none => false

/-- The label keeps to the direction of its first character. -/
def keepsDirection (t : Text) : Bool :=
  match t.map direction with
  | [] => true
  | .right :: ds => keepsRight (.right :: ds)
  | .arabic :: ds => keepsRight (.arabic :: ds)
  | .left :: ds => keepsLeft (.left :: ds)
  | _ => false

/-- The label holds a character that is written from right to left. -/
def isRightward (t : Text) : Bool :=
  t.any fun c => direction c = .right || direction c = .arabic || direction c = .arabicNumber

end Label

end CredentialGateway.Domain
