import WebMount.Request.Basic
import WebMount.Resource.Body
import WebMount.Resource.MediaTypes

/-!
# Descriptions of answers

A resource describes how it answers one request: an error, or a body with what the header is to
say about it, and in either case when it was last modified and how long caches may keep it. What
the request is conditional on decides whether the data is needed at all; dates in requests show
whole seconds, so the modification is compared without the part below a second.
-/

namespace WebMount

open WebMount.Response WebMount.Time

/-- What an application sets for all its resources. -/
structure ResourceSettings where
  /-- The lifetime in caches of resources that have none of their own. -/
  defaultLifetime : Duration
  mediaTypes : MediaTypes := {}
  deriving DecidableEq, Repr

/-- How a resource answers one request. -/
structure Description where
  errorCode : Option Nat := none
  errorMessage : Option String := none
  fileName : Option String := none
  disposition : Disposition := .inline
  contentType : Option String := none
  textEncoding : Option String := none
  /-- The number of bytes of the body; negative if it is not known. -/
  contentLength : Int := -1
  lastModified : Option Instant := none
  /-- The lifetime in caches; none at all if it is zero. -/
  lifetime : Duration
  scope : CacheScope := .personal
  body : Option (List BodyStep) := none
  deriving DecidableEq, Repr

namespace Description

/-- The description that a resource starts from. -/
def create (settings : ResourceSettings) : Description :=
  { lifetime := settings.defaultLifetime }

/-- Whether the client needs the data: it does unless the resource was not modified after the
instant that the request is conditional on. -/
def needsData (d : Description) (request : Request) : Bool :=
  match request.ifModifiedSince?, d.lastModified with
  | some since, some modified => decide (since.nanos < modified.truncate.nanos)
  | _, _ => true

/-- The media type: the one set, or else the one for the file name. -/
def mediaType? (d : Description) (types : MediaTypes) : Option String :=
  match d.contentType, d.fileName with
  | some contentType, _ => some contentType
  | none, some fileName => types.typeOf? fileName
  | none, none => none

/-- Whether a media type is one of texts, which have an encoding. -/
def isTextual (mediaType : String) : Bool :=
  Text.occursIn "text".toList mediaType.toList

/-- The content type: the media type, and for texts the encoding. -/
def contentTypeField? (d : Description) (types : MediaTypes) : Option String :=
  (d.mediaType? types).map fun mediaType =>
    match d.textEncoding with
    | some encoding =>
      if isTextual mediaType then s!"{mediaType}; charset={encoding}" else mediaType
    | none => mediaType

/-- What is said about caching. -/
def cachingCommand (d : Description) (request : Request) : Command :=
  if d.lifetime.nanos = 0 then .disableCaching request.received
  else .enableCaching d.lifetime d.scope request.received

/-- What is said to the response whether or not there is data to send. -/
def commonCommands (d : Description) (request : Request) : List Command :=
  d.lastModified.toList.map .lastModified ++ [d.cachingCommand request]

/-- What is said about the data, in front of it. The last command sends the head. -/
def contentCommands (d : Description) (types : MediaTypes) : List Command :=
  [.disposition d.disposition d.fileName]
    ++ (d.contentTypeField? types).toList.map .contentType
    ++ (if 0 ≤ d.contentLength then [.contentLength d.contentLength.toNat] else [])
    ++ [.flush]

variable {σ : Type} [Sink σ]

/-- Commands to a response on behalf of a resource. -/
def say (s : σ) (commands : List Command) : Except ResourceError Unit × σ :=
  let (result, s) := performAll s commands
  (result.mapError .ofFailure, s)

/-- Answers a request as described. A condition that holds comes first, then an error; data needs
a body, which is written after the head was sent. -/
def respond (d : Description) (settings : ResourceSettings) (request : Request) (s : σ) :
    Except ResourceError Unit × σ :=
  match say s (d.commonCommands request) with
  | (.error e, s) => (.error e, s)
  | (.ok (), s) =>
    if !d.needsData request then say s [.status 304]
    else
      match d.errorCode, d.body with
      | some code, _ => say s [.error code d.errorMessage]
      | none, none => (.error .missingBody, s)
      | none, some body =>
        match say s (d.contentCommands settings.mediaTypes) with
        | (.error e, s) => (.error e, s)
        | (.ok (), s) => BodyStep.takeAll s body

/-- A change to a description. -/
inductive Change where
  | error (code : Nat) (message : Option String)
  | fileName (name : String)
  | disposition (kind : Disposition)
  | contentType (mediaType : String)
  | textEncoding (encoding : String)
  | contentLength (length : Int)
  | lastModified (instant : Instant)
  | lifetime (lifetime : Duration)
  | scope (scope : CacheScope)
  | body (steps : List BodyStep)
  | dropBody
  deriving DecidableEq, Repr

/-- The description after a change. -/
def change (d : Description) : Change → Description
  | .error code message => { d with errorCode := some code, errorMessage := message }
  | .fileName name => { d with fileName := some name }
  | .disposition kind => { d with disposition := kind }
  | .contentType mediaType => { d with contentType := some mediaType }
  | .textEncoding encoding => { d with textEncoding := some encoding }
  | .contentLength length => { d with contentLength := length }
  | .lastModified t => { d with lastModified := some t }
  | .lifetime lifetime => { d with lifetime }
  | .scope scope => { d with scope }
  | .body steps => { d with body := some steps }
  | .dropBody => { d with body := none }

end Description

end WebMount
