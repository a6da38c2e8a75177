import CredentialGateway.Text.Replace

/-!
# Dot segments of a path

A path is cut at `/` and at `\`.  A segment is a dot segment when it spells `.` or `..`, where
each dot may also be written `%2e` or `%2E`; no other percent form is decoded.
-/

namespace CredentialGateway.Path

/-- Slash and backslash both end a segment. -/
def isSeparator (c : Char) : Bool := c == '/' || c == '\\'

/-- The segments of a path, empty ones included. -/
def segments (path : Text) : List Text := path.splitOnP isSeparator

/-- The segment spells one dot or two, each plain or percent-encoded. -/
def isDotSegment (segment : Text) : Bool :=
  let plain := Text.replaceAll "%2e" "." segment.lower
  plain == "." || plain == ".."

/-- Some segment of the path is a dot segment. -/
def hasDotSegment (path : Text) : Bool := (segments path).any isDotSegment

end CredentialGateway.Path
