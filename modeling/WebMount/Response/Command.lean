import WebMount.Response.Caching
import WebMount.Response.Disposition

/-!
# Commands to a response

Commands are what resources say to a response. Each one stands for a list of operations: most
for one, those about caching for four, and a field whose text is no header value for none.
-/

namespace WebMount.Response

open WebMount.Time

/-- A command to a response. -/
inductive Command where
  | status (code : Nat)
  | error (code : Nat) (message : Option String)
  | header (name value : String)
  | date (name : String) (instant : Instant)
  | lastModified (instant : Instant)
  | contentType (value : String)
  | contentLength (length : Nat)
  | disposition (kind : Disposition) (fileName : Option String)
  | enableCaching (lifetime : Duration) (scope : CacheScope) (now : Instant)
  | disableCaching (now : Instant)
  | write (bytes : Bytes)
  | flush
  deriving DecidableEq, Repr

/-- The operation that sets a field to a text, if the text is a header value. -/
def textHeader (name value : String) : List Op :=
  if Headers.isValue value then [.header name value] else []

/-- The operations that a command stands for. -/
def Command.ops : Command → Except Crash (List Op)
  | status code => .ok [.status code]
  | error code message => .ok [.error code message]
  | header name value => .ok (textHeader (Headers.canonicalName name) value)
  | date name t => (dateHeader (Headers.canonicalName name) t).map ([·])
  | lastModified t => (dateHeader "last-modified" t).map ([·])
  | contentType value => .ok (textHeader "content-type" value)
  | contentLength length => .ok [.header "content-length" (toString length)]
  | disposition kind fileName =>
    .ok (textHeader "content-disposition" (Disposition.headerValue kind.word fileName))
  | enableCaching lifetime scope now => Response.enableCaching lifetime scope now
  | disableCaching now => Response.disableCaching now
  | write bytes => .ok [.write bytes]
  | flush => .ok [.flush]

/-- The bytes that a command writes to the body. -/
def Command.bytes : Command → Bytes
  | write bytes => bytes
  | _ => []

/-- Why a command does not succeed. -/
inductive Failure where
  | io (cause : IoError)
  | crash (defect : Crash)
  deriving DecidableEq, Repr

variable {σ : Type} [Sink σ]

/-- One command to a sink: whether it succeeds, and the sink after it. -/
def perform (s : σ) (c : Command) : Except Failure Unit × σ :=
  match c.ops with
  | .error defect => (.error (.crash defect), s)
  | .ok ops =>
    match run s ops with
    | (.ok (), s) => (.ok (), s)
    | (.error cause, s) => (.error (.io cause), s)

/-- Commands to a sink, up to the first one that does not succeed. -/
def performAll (s : σ) : List Command → Except Failure Unit × σ
  | [] => (.ok (), s)
  | c :: cs =>
    match perform s c with
    | (.ok (), s) => performAll s cs
    | (.error failure, s) => (.error failure, s)

end WebMount.Response
