import CredentialGateway.Text.Glyph

/-!
# Quoted text

Diagnostics show a text between double quotes, on one line and with nothing in it invisible:
quotes and backslashes are escaped, and so is every character without a glyph of its own.  A file
name need not be text; its stray bytes are shown as numbers, and single quotes are escaped too.
-/

namespace CredentialGateway.Text

/-- A character as it is shown between the given quotes. -/
def escape (quotes : List Char) (c : Char) : Text :=
  if c == '\x00' then "\\0"
  else if c == '\t' then "\\t"
  else if c == '\r' then "\\r"
  else if c == '\n' then "\\n"
  else if c == '\\' || quotes.contains c then ['\\', c]
  else if hasGlyph c then [c]
  else "\\u\x7b".toList ++ Hex.ofNat c.toNat ++ ['\x7d']

/-- A text in double quotes. -/
def quoted (t : Text) : Text := '"' :: t.flatMap (escape ['"']) ++ ['"']

/-- A byte string in double quotes, as far as possible as text. -/
def quotedBytes (bs : Bytes) : Text :=
  let piece : Bytes.Chunk → Text
    | .char c => escape ['"', '\x27'] c
    | .stray b => '\\' :: 'x' :: Hex.ofByte b
  '"' :: (Bytes.chunks bs).flatMap piece ++ ['"']

/-- A file name in double quotes. -/
def quotedPath (t : Text) : Text := quotedBytes t.utf8

end CredentialGateway.Text
