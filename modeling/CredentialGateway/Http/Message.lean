import CredentialGateway.Header.HopByHop

/-!
# Requests and responses

A request body is empty, or a stream whose length its first hop may or may not know.  A response is
what a caller gets: its body may break off where its source broke off.
-/

namespace CredentialGateway

/-- A response as a caller gets it. -/
structure Response where
  status : Nat
  headers : Headers
  body : Bytes := []
  /-- The body has come to its end. -/
  complete : Bool := true
  deriving DecidableEq

namespace Response

def textPlain : HeaderValue := ⟨Text.utf8 "text/plain; charset=utf-8", false, by decide⟩

/-- A header with the length of a body. -/
def lengthField (n : Nat) : Headers :=
  ((HeaderValue.ofNat? n).map fun v => [(HeaderName.contentLength, v)]).getD []

def notFoundText : Text := "Not Found"

/-- The answer to a request that is not forwarded. -/
def notFound : Response where
  status := 404
  headers := [(.contentType, textPlain)] ++ lengthField notFoundText.length
  body := notFoundText.utf8

/-- The answer to a request that could not be sent on. -/
def badGateway : Response where
  status := 502
  headers := lengthField 0

/-- The response as it goes out for a request of this method: one to HEAD has no body. -/
def toMethod (r : Response) (method : Text) : Response :=
  if method = "HEAD" then { r with body := [], complete := true } else r

end Response

namespace Http

/-- The status grants a tunnel, and no message follows on the connection. -/
def opensTunnel (method : Text) (status : Nat) : Bool :=
  method = "CONNECT" && 200 ≤ status && status < 300

/-- A response to these has no body. -/
def isBodiless (method : Text) (status : Nat) : Bool :=
  method = "HEAD" || opensTunnel method status || status < 200 || status = 204 || status = 304

end Http

end CredentialGateway
