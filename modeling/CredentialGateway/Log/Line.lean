import CredentialGateway.Log.Filter
import CredentialGateway.Text.Quoted

/-!
# Log lines

An event on one line: level, the span it happened in, where it comes from, message, fields.  The
same as a JSON object has the message among the fields.
-/

namespace CredentialGateway.Log

def FieldValue.text : FieldValue → Text
  | .shown t => t
  | .quoted t => Text.quoted t
  | .flag b => if b then "true" else "false"

def RequestSpan.text (s : RequestSpan) : Text :=
  RequestSpan.name ++ "\x7b" ++ Text.join " " (s.fields.map fun (k, v) => k ++ "=" ++ v) ++ "\x7d"

/-- An event and the recorded span that it happened in. -/
structure Entry where
  span : Option RequestSpan
  event : Event
  deriving DecidableEq, Repr

namespace Entry

/-- The entry as one line, without the time. -/
def line (e : Entry) : Text :=
  e.event.level.name ++ " " ++
    (match e.span with
      | some s => s.text ++ ": "
      | none => []) ++
    e.event.target ++ ": " ++ e.event.message ++
    e.event.fields.flatMap fun (k, v) => ' ' :: (k ++ '=' :: v.text)

/-- A character inside a JSON string. -/
def jsonChar (c : Char) : Text :=
  if c == '"' || c == '\\' then ['\\', c]
  else if c == '\x08' then ['\\', 'b']
  else if c == '\t' then ['\\', 't']
  else if c == '\n' then ['\\', 'n']
  else if c == '\x0c' then ['\\', 'f']
  else if c == '\r' then ['\\', 'r']
  else if c.toNat < 0x20 then "\\u00".toList ++ (Hex.ofByte c.toNat.toUInt8).lower
  else [c]

/-- A text as a JSON string. -/
def jsonString (t : Text) : Text := '"' :: t.flatMap jsonChar ++ ['"']

/-- A JSON object with these members, their values written already. -/
def jsonObject (members : List (Text × Text)) : Text :=
  '\x7b' :: Text.join "," (members.map fun (k, v) => jsonString k ++ ':' :: v) ++ ['\x7d']

def jsonValue : FieldValue → Text
  | .flag b => if b then "true" else "false"
  | v => jsonString v.text

/-- The entry as a JSON object on one line, without the time. -/
def json (e : Entry) : Text :=
  let named (name : Text) (v : Text) : Text × Text := (name, v)
  let fields := named "message" (jsonString e.event.message) ::
    e.event.fields.map fun (k, v) => (k, jsonValue v)
  let spanFields (s : RequestSpan) :=
    (s.fields.map fun (k, v) => (k, jsonString v)) ++ [named "name" (jsonString RequestSpan.name)]
  jsonObject ([named "level" (jsonString e.event.level.name), named "fields" (jsonObject fields),
    named "target" (jsonString e.event.target)] ++
    e.span.toList.map fun s => named "span" (jsonObject (spanFields s)))

end Entry

/-- The events of one request that come through, or of the program outside of requests. -/
def entries (f : Filter) (s : Option RequestSpan) (events : List Event) : List Entry :=
  (events.filter (f.passes s)).map fun event => ⟨s.filter f.recordsSpan, event⟩

end CredentialGateway.Log
