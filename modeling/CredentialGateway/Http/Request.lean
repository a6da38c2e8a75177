import CredentialGateway.Http.Framing
import CredentialGateway.Target

/-!
# Requests on a connection

A request starts with a line of method, URI and version, then a line for each header, then an empty
line.  Lines end in LF, with or without CR; empty lines before the request are passed over.  A
request that is not whole yet is waited for; one that can never become a request is refused.
-/

namespace CredentialGateway.Http

/-- Why there is no request at the front of the bytes. -/
inductive Stop
  | incomplete
  | refused (r : Refusal)
  deriving DecidableEq, Repr

/-- A request head as read from a connection. -/
structure Incoming where
  head : RequestHead
  /-- HTTP/1.1, not 1.0. -/
  newer : Bool
  keepAlive : Bool
  framing : Framing
  deriving DecidableEq

/-- At most so many headers. -/
def mostHeaders : Nat := 100

abbrev Reader (α : Type) := Bytes → Except Stop (α × Bytes)

def malformed {α : Type} : Except Stop α := .error (.refused .malformed)

/-! ## Reading -/

def isTokenByte (b : UInt8) : Bool := isTokenChar (Char.ofNat b.toNat)

/-- Passes over empty lines. -/
def skipEmptyLines : Bytes → Except Stop Bytes
  | [] => .error .incomplete
  | 10 :: rest => skipEmptyLines rest
  | 13 :: rest =>
    match rest with
    | [] => .error .incomplete
    | 10 :: rest => skipEmptyLines rest
    | _ => malformed
  | bs => .ok bs

/-- Reads the end of a line. -/
def lineEnd : Bytes → Except Stop Bytes
  | [] => .error .incomplete
  | [13] => .error .incomplete
  | 10 :: rest => .ok rest
  | 13 :: 10 :: rest => .ok rest
  | _ => malformed

/-- Reads up to the byte `stop`, which must come behind at least one `allowed` byte. -/
def upTo (allowed : UInt8 → Bool) (stop : UInt8) : Reader Bytes := fun bs =>
  match bs.dropWhile allowed with
  | [] => .error .incomplete
  | b :: rest =>
    if b = stop && (bs.takeWhile allowed) ≠ [] then .ok (bs.takeWhile allowed, rest) else malformed

def isUriByte (b : UInt8) : Bool := 0x20 < b && b != 0x7F

/-- Reads the version: whether it is 1.1. -/
def version : Reader Bool := fun bs =>
  if (Text.utf8 "HTTP/1.1").isPrefixOf bs then .ok (true, bs.drop 8)
  else if (Text.utf8 "HTTP/1.0").isPrefixOf bs then .ok (false, bs.drop 8)
  else if bs.isPrefixOf (Text.utf8 "HTTP/1.") then .error .incomplete
  else malformed

def isBlankByte (b : UInt8) : Bool := b == 0x20 || b == 0x09

/-- Reads a header value up to the end of its line, without the blanks around it. -/
def headerValue : Reader HeaderValue := fun bs => do
  let bs := bs.dropWhile isBlankByte
  let v := bs.takeWhile isFieldByte
  let rest ← lineEnd (bs.dropWhile isFieldByte)
  match HeaderValue.ofBytes? (v.reverse.dropWhile isBlankByte).reverse with
  | some v => return (v, rest)
  | none => malformed

/-- Reads one header. -/
def header : Reader (HeaderName × HeaderValue) := fun bs => do
  let (name, rest) ← upTo isTokenByte 0x3A bs
  let (v, rest) ← headerValue rest
  match HeaderName.ofBytes? name with
  | some n => return ((n, v), rest)
  | none => malformed

/-- Reads headers up to the empty line, at most `n` of them. -/
def headers : Nat → Reader Headers
  | n, bs =>
    match lineEnd bs with
    | .ok rest => .ok ([], rest)
    | .error .incomplete => .error .incomplete
    | .error (.refused _) =>
      match n with
      | 0 => if bs.head?.any isTokenByte then .error (.refused .headTooLarge) else malformed
      | n + 1 => do
        let (field, rest) ← header bs
        let (fields, rest) ← headers n rest
        return (field :: fields, rest)

/-- Reads the URI of a request. -/
def requestUri (raw : Bytes) : Except Stop RequestUri :=
  match RequestUri.parse raw with
  | .ok uri => .ok uri
  | .error .tooLong => .error (.refused .uriTooLong)
  | .error _ => malformed

/-- Reads a request head. -/
def request : Reader Incoming := fun bs => do
  let bs ← skipEmptyLines bs
  let (method, bs) ← upTo isTokenByte 0x20 bs
  let (raw, bs) ← upTo isUriByte 0x20 bs
  if (Bytes.text? raw).isNone then malformed
  let (newer, bs) ← version bs
  let bs ← lineEnd bs
  let (fields, bs) ← headers mostHeaders bs
  let uri ← requestUri raw
  let (framing, kept, keepAlive) ← (frame newer fields).mapError .refused
  return (⟨⟨Bytes.asciiText method, uri, kept⟩, newer, keepAlive, framing⟩, bs)

/-! ## Writing -/

/-- A body as a caller sends it. -/
inductive Payload
  | sized (body : Bytes)
  | chunks (cs : List Bytes)
  deriving DecidableEq, Repr

/-- A request as a caller writes it, its parts as they are. -/
structure Outgoing where
  method : Bytes
  uri : Bytes
  headers : List (Bytes × Bytes)
  payload : Payload
  deriving DecidableEq, Repr

def writeHeader (field : Bytes × Bytes) : Bytes := field.1 ++ Text.utf8 ": " ++ field.2 ++ crlf

/-- The header that frames the payload, and the payload behind the empty line. -/
def Payload.write : Payload → Bytes
  | .sized [] => crlf
  | .sized body =>
    writeHeader (Text.utf8 "content-length", Text.utf8 (Text.ofNat body.length)) ++ crlf ++ body
  | .chunks cs =>
    writeHeader (Text.utf8 "transfer-encoding", Text.utf8 "chunked") ++ crlf ++ writeChunks cs

/-- The bytes of a request to this machine. -/
def Outgoing.write (r : Outgoing) : Bytes :=
  r.method ++ [0x20] ++ r.uri ++ Text.utf8 " HTTP/1.1" ++ crlf ++
    ((Text.utf8 "host", Text.utf8 "localhost") :: r.headers).flatMap writeHeader ++ r.payload.write

end CredentialGateway.Http
