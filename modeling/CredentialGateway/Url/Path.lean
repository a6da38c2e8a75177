import CredentialGateway.Percent

/-!
# Paths of a URL

A path is read segment by segment.  A segment that spells one dot is dropped, one that spells two
takes the segment before it away, and every other segment is percent-encoded and kept; at the end
of the path a dot segment leaves the empty segment, so that the path still names a directory.  A
segment that names a drive is never taken away.

Under the special schemes `\` ends a segment as `/` does.

    resolve segments = segments, each encoded        if none is a dot segment   (resolve_of_plain)
-/

namespace CredentialGateway.UrlPath

/-! ## Algorithm -/

/-- What a segment asks for. -/
inductive Meaning
  | here
  | up
  | plain
  deriving DecidableEq, Repr

/-- Each dot may be written `%2e`, its letter in either case. -/
def meaning (segment : Text) : Meaning :=
  let s := segment.lower
  if s = "." || s = "%2e" then .here
  else if s = ".." || s = ".%2e" || s = "%2e." || s = "%2e%2e" then .up
  else .plain

/-- A letter with a colon or bar behind it. -/
def isDrive : Text → Bool
  | [letter, mark] => letter.isAlpha && (mark == ':' || mark == '|')
  | _ => false

/-- The kept segments, newest first, after a step up. -/
def pop : List Text → List Text
  | [] => []
  | s :: kept => if isDrive s then s :: kept else kept

/-- The segments that stay, given those kept so far, newest first. -/
def resolveOnto (kept : List Text) : List Text → List Text
  | [] => kept.reverse
  | s :: rest =>
    let onward (kept : List Text) : List Text :=
      if rest = [] then (([] : Text) :: kept).reverse else resolveOnto kept rest
    match meaning s with
    | .here => onward kept
    | .up => onward (pop kept)
    | .plain => resolveOnto (Percent.encode Percent.pathSet s :: kept) rest

/-- The segments of a path after its dot segments have been carried out. -/
def resolve (segments : List Text) : List Text := resolveOnto [] segments

/-- The characters that end a segment. -/
def isSeparator (special : Bool) (c : Char) : Bool := c == '/' || (special && c == '\\')

/-- The segments of a path; a separator at the front begins the first one. -/
def segments (special : Bool) (path : Text) : List Text :=
  match path with
  | [] => [[]]
  | c :: rest => (if isSeparator special c then rest else path).splitOnP (isSeparator special)

/-- A slash before each segment. -/
def print (segments : List Text) : Text := segments.flatMap fun s => '/' :: s

/-- TAB, LF and CR are passed over wherever they stand. -/
def isIgnored (c : Char) : Bool := c == '\t' || c == '\n' || c == '\r'

/-- Nothing, or text that is no path but starts what comes behind one. -/
def isAbsent (path : Text) : Bool :=
  path.head?.all fun c => c == '?' || c == '#'

/-- The normal form of a path.  Only under the special schemes is there always one. -/
def normalize (special : Bool) (path : Text) : Text :=
  let path := path.filter (!isIgnored ·)
  if isAbsent path && !special then [] else print (resolve (segments special path))

/-- A drive at the front of a file path is written with a colon. -/
def colonDrive : List Text → List Text
  | [letter, '|'] :: rest => (if letter.isAlpha then [letter, ':'] else [letter, '|']) :: rest
  | segments => segments

/-- The normal form of a file path: it does not start with empty segments. -/
def normalizeFile (path : Text) : Text :=
  let path := path.filter (!isIgnored ·)
  let all := colonDrive (resolve (segments true path))
  print (match all.dropWhile (· = []) with
    | [] => [[]]
    | s :: rest => s :: rest)

/-! ## Lemmas -/

theorem resolveOnto_of_plain {segments : List Text} (h : ∀ s ∈ segments, meaning s = .plain)
    (kept : List Text) :
    resolveOnto kept segments =
      kept.reverse ++ segments.map (Percent.encode Percent.pathSet) := by
  induction segments generalizing kept with
  | nil => simp [resolveOnto]
  | cons s rest ih =>
    rw [resolveOnto, h s (by simp)]
    simp [ih fun x hx => h x (by simp [hx])]

/-- Without dot segments, every segment stays. -/
theorem resolve_of_plain {segments : List Text} (h : ∀ s ∈ segments, meaning s = .plain) :
    resolve segments = segments.map (Percent.encode Percent.pathSet) := by
  simp [resolve, resolveOnto_of_plain h]

end CredentialGateway.UrlPath
