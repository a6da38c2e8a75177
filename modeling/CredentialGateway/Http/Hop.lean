import CredentialGateway.Http.Message
import CredentialGateway.Http.Request

/-!
# The caller's hop

What a connection adds to a response: the framing of a body whose length is not given, and a word
about the connection where it differs from the habit of the version.

A length that is given is kept to, whatever the body is: a longer body is cut, and a shorter one
leaves the caller waiting when the connection ends.  A length that is given several times goes out
once.  If the lengths are not one number nothing goes out, and the connection is closed.
-/

namespace CredentialGateway.Http

def closeValue : HeaderValue := ⟨Text.utf8 "close", false, by decide⟩

def keepAliveValue : HeaderValue := ⟨Text.utf8 "keep-alive", false, by decide⟩

/-- The answer to bytes that are refused as a request. -/
def refusal (r : Refusal) : Response where
  status := r.status
  headers := [(.connection, closeValue)] ++ Response.lengthField 0

/-- The word about the connection. -/
def connectionField (newer keepAlive : Bool) : Headers :=
  match newer, keepAlive with
  | true, false => [(.connection, closeValue)]
  | false, true => [(.connection, keepAliveValue)]
  | _, _ => []

/-- The framing of a body whose length is not given. -/
def framingField (method : Text) (newer : Bool) (r : Response) : Headers :=
  if Headers.contains .contentLength r.headers || isBodiless method r.status || !newer then []
  else [(.transferEncoding, chunkedValue)]

/-- The head can be written.  Its lengths must be one number; one to HEAD goes out as it stands, and
one in front of a tunnel cannot. -/
def isWritable (method : Text) (status : Nat) (h : Headers) : Bool :=
  !Headers.contains .contentLength h ||
    !opensTunnel method status &&
      if method = "HEAD" then (Headers.values .contentLength h).length = 1
      else (givenLength? h).isSome

/-- The body as far as it goes over the connection, and whether it comes to an end there. -/
def carried (method : Text) (r : Response) : Bytes × Bool :=
  if isBodiless method r.status then ([], true)
  else match givenLength? r.headers with
    | some n => (r.body.take n, n ≤ r.body.length)
    | none => (r.body, r.complete)

/-- The response as the caller reads it from the connection, if its head can be written. -/
def overConnection (request : Incoming) (r : Response) : Option Response :=
  let method := request.head.method
  if isWritable method r.status r.headers then
    some {
      status := r.status
      headers := Headers.once .contentLength r.headers ++ framingField method request.newer r ++
        connectionField request.newer request.keepAlive
      body := (carried method r).1
      complete := (carried method r).2 }
  else none

end CredentialGateway.Http
