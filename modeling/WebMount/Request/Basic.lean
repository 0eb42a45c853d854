import WebMount.Request.Uri
import WebMount.Response.Headers
import WebMount.Time.HttpDate
import WebMount.UrlEncoded

/-!
# Requests

A request as resources see it: method, path, query, header fields, and the instant at which it
was received, from which every date of its answer is derived.
-/

namespace WebMount

open WebMount.Time

/-- A request. -/
structure Request where
  method : String := "GET"
  path : String
  query : Option String := none
  headers : Headers := {}
  received : Instant := .epoch
  deriving DecidableEq, Repr

namespace Request

/-- The request for a target of the form `path` or `path?query`. -/
def ofTarget (method target : String) : Request :=
  match Text.splitFirst? '?' target.toList with
  | some (path, query) =>
    { method, path := String.ofList path, query := some (String.ofList query) }
  | none => { method, path := target }

/-- The request for the path and query of a URI. -/
def ofUri (method : String) (uri : Uri.Target) : Request :=
  { method, path := uri.path, query := uri.query }

/-- The request with a header field set; a text that is no header value is ignored. -/
def withHeader (r : Request) (name value : String) : Request :=
  { r with headers := r.headers.setText name value }

/-- The request on the condition that something was modified since an instant, if the instant can
be written as a date. -/
def withIfModifiedSince? (r : Request) (t : Instant) : Option Request :=
  (HttpDate.format? t).map fun date => r.withHeader "if-modified-since" date

/-- The query without its question mark; empty if there is none. -/
def queryText (r : Request) : String :=
  r.query.getD ""

/-- The instant since which something must have been modified. A field that is no date counts as
absent. -/
def ifModifiedSince? (r : Request) : Option Instant :=
  (r.headers.text? "if-modified-since").bind HttpDate.parse?

/-- The value of the first query parameter of a name. -/
def parameter? (r : Request) (name : String) : Option String :=
  UrlEncoded.valueOf? (UrlEncoded.decode r.queryText) name

end Request

end WebMount
