import WebMount.Response.Buffered
import WebMount.Response.Streaming

/-!
# Answers of the server

What a client receives in the end: a head, the bytes of a body, and the failure that cut the body
short, if one did. Answers whose body is known as a whole carry its length; those whose body was
sent while it was written do so only if they set it themselves.
-/

namespace WebMount

open WebMount.Response

/-- What a client receives. -/
structure Answer where
  head : Head
  body : Bytes := []
  failure : Option IoError := none
  deriving DecidableEq, Repr

namespace Answer

/-- The answer with the length of its body in the head, unless the head has a length already. -/
def withLength (a : Answer) : Answer :=
  if (a.head.headers.get? "content-length").isSome then a
  else
    { a with
      head.headers := a.head.headers.set "content-length" (toString a.body.length) }

/-- An answer without a body. -/
def empty (status : Nat) : Answer :=
  withLength { head := { status } }

/-- An answer that is a line of text. -/
def plain (status : Nat) (text : String) : Answer :=
  withLength
    { head := { status, headers := Headers.set {} "content-type" plainText },
      body := Utf8.ofString text }

/-- The answer to a request that addresses nothing. -/
def notFound : Answer :=
  plain 404 "Not Found"

/-- The answer to a request that could not be answered. -/
def failed : Answer :=
  empty 500

/-- The answer that sends the client to another place. A place that cannot be the value of a
header field is a failure. -/
def redirect (location : String) : Answer :=
  if Headers.isValue location then
    withLength { head := { status := 302, headers := Headers.set {} "location" location } }
  else plain 500 "failed to parse header value"

/-- The answer made of a buffered response. -/
def ofBuffered (r : Buffered) : Answer :=
  withLength { head := r.head, body := r.body }

/-- The answer made of a streamed response. -/
def ofReceived (r : Received) : Answer :=
  { head := r.head, body := r.chunks.flatten, failure := r.failure }

/-- The answer with nothing but its head. -/
def withoutBody (a : Answer) : Answer :=
  { head := a.head }

/-- Whether the status says that the request succeeded. -/
def isSuccess (a : Answer) : Bool :=
  decide (200 ≤ a.head.status) && decide (a.head.status < 300)

/-- Whether the head says that a body follows, by its length or by its transfer coding. -/
def announcesBody (a : Answer) : Bool :=
  (a.head.headers.get? "content-length").isSome
    || (a.head.headers.get? "transfer-encoding").isSome

/-- The answer as it is sent to a request of a method. A request for the head gets the head only.
A successful answer to a request for a tunnel must not announce a body, so an announced body is
left out; one that is not announced passes for the bytes of the tunnel. -/
def forMethod (a : Answer) (method : String) : Answer :=
  if method = "HEAD" then a.withoutBody
  else if method = "CONNECT" && a.isSuccess && a.announcesBody then a.withoutBody
  else a

@[simp] theorem head_forMethod (a : Answer) (method : String) :
    (a.forMethod method).head = a.head := by
  unfold forMethod withoutBody
  split
  · rfl
  · split <;> rfl

/-- The header field with the id of a request. -/
def requestIdField : String := "x-request-id"

/-- The answer with the id of its request, unless it has an id of its own. -/
def withRequestId (a : Answer) (id : String) : Answer :=
  if (a.head.headers.get? requestIdField).isSome then a
  else { a with head.headers := a.head.headers.set requestIdField id }

end Answer

end WebMount
