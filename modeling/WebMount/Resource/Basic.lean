import WebMount.Resource.Description
import WebMount.Storage.Basic

/-!
# Resources

The kinds of resources: fixed bytes, a stored file, an image that is generated on demand, and any
other resource, given by the changes that it makes to a description. Each kind describes how it
answers a request; nothing is read or generated that the client does not need.
-/

namespace WebMount

open WebMount.Response WebMount.Time

/-- Bytes that never change. -/
structure BytesResource where
  contentType : String
  content : Bytes
  lastModified : Instant
  fileName : Option String := none
  disposition : Disposition := .inline
  lifetime : Option Duration := none
  scope : CacheScope := .personal
  deriving DecidableEq, Repr

/-- A stored file, looked at anew for each request. -/
structure FileResource where
  path : String
  contentType : Option String := none
  textEncoding : Option String := none
  disposition : Disposition := .inline
  lifetime : Option Duration := none
  scope : CacheScope := .personal
  deriving DecidableEq, Repr

/-- An image that is generated for a request, if there is one. -/
structure ImageResource where
  /-- The part of the media type behind `image/`. -/
  format : String
  lastModified : Instant
  lifetime : Option Duration := none
  generate : Request → Except Crash (Option Bytes)

/-- A resource. -/
inductive Resource where
  | bytes (resource : BytesResource)
  | file (resource : FileResource)
  | image (resource : ImageResource)
  | custom (changes : List Description.Change)

/-- The description with a lifetime of its own, if one is given. -/
def Description.withLifetime (d : Description) (lifetime : Option Duration) : Description :=
  { d with lifetime := lifetime.getD d.lifetime }

/-- The description with a body and its length. -/
def Description.withBody (d : Description) (length : Nat) (steps : List BodyStep) : Description :=
  { d with contentLength := length, body := some steps }

/-- How fixed bytes are described. -/
def BytesResource.describe (r : BytesResource) (settings : ResourceSettings) (request : Request) :
    Description :=
  let d := (Description.create settings).withLifetime r.lifetime
  let d :=
    { d with
      contentType := some r.contentType, lastModified := some r.lastModified, scope := r.scope }
  if d.needsData request then
    { d with fileName := r.fileName, disposition := r.disposition }.withBody r.content.length
      [.command (.write r.content)]
  else d

/-- The status that reports why a file cannot be opened. -/
def FileResource.statusOf (cause : IoError) : Nat :=
  match cause.kind with
  | .notFound => 404
  | .permissionDenied => 403
  | _ => 500

/-- How a stored file is described. -/
def FileResource.describe (r : FileResource) (files : Storage) (settings : ResourceSettings)
    (request : Request) : Description :=
  let d := (Description.create settings).withLifetime r.lifetime
  let d := { d with scope := r.scope }
  match files.open? r.path with
  | .error cause => d.change (.error (statusOf cause) none)
  | .ok .directory => d.change (.error 404 none)
  | .ok (.regular content modified) =>
    let d :=
      { d with
        lastModified := some modified
        fileName := Path.fileName? r.path
        contentType := r.contentType
        textEncoding := r.textEncoding
        disposition := r.disposition }
    if d.needsData request then d.withBody content.length [.stream [.data content]] else d

/-- How an image is described, with the generator run in any monad. -/
def ImageResource.describeIn {m : Type → Type} [Monad m] (format : String)
    (lastModified : Instant) (lifetime : Option Duration) (generate : m (Option Bytes))
    (settings : ResourceSettings) (request : Request) : m Description :=
  let d := (Description.create settings).withLifetime lifetime
  let d := { d with lastModified := some lastModified }
  if d.needsData request then do
    match ← generate with
    | some content =>
      return { d with contentType := some ("image/" ++ format) }.withBody content.length
        [.command (.write content)]
    | none => return d.change (.error 404 none)
  else return d

/-- How an image is described. -/
def ImageResource.describe (r : ImageResource) (settings : ResourceSettings) (request : Request) :
    Except Crash Description :=
  describeIn r.format r.lastModified r.lifetime (r.generate request) settings request

namespace Resource

/-- How a resource is described. -/
def describe (r : Resource) (files : Storage) (settings : ResourceSettings) (request : Request) :
    Except Crash Description :=
  match r with
  | bytes r => .ok (r.describe settings request)
  | file r => .ok (r.describe files settings request)
  | image r => r.describe settings request
  | custom changes => .ok (changes.foldl Description.change (Description.create settings))

/-- Answers a request for a resource. -/
def respond {σ : Type} [Sink σ] (r : Resource) (files : Storage) (settings : ResourceSettings)
    (request : Request) (sink : σ) : Except ResourceError Unit × σ :=
  match r.describe files settings request with
  | .ok d => d.respond settings request sink
  | .error defect => (.error (.crash defect), sink)

end Resource

end WebMount
