import WebMount.Resource.Basic

/-!
# Built-in resources

The kinds of resources that the library has: fixed bytes, a stored file, and an image that is
generated on demand. What such a resource holds for a request, when it was modified and how long it
may be kept are told here from the resource alone, apart from how it is described for an answer. An
image can be answered with a count of how often it was generated.
-/

namespace WebMount

open WebMount.Response WebMount.Time

/-- A resource of a kind that the library has. -/
inductive BuiltIn where
  | bytes (resource : BytesResource)
  | file (resource : FileResource)
  /-- An image whose generator always comes to a result. -/
  | image (format : String) (lastModified : Instant) (lifetime : Option Duration)
    (generate : Request → Option Bytes)

namespace BuiltIn

/-- The resource as one of all kinds. -/
def resource : BuiltIn → Resource
  | bytes r => .bytes r
  | file r => .file r
  | image format lastModified lifetime generate =>
    .image { format, lastModified, lifetime, generate := fun request => .ok (generate request) }

/-- What the resource holds for a request: bytes, or else the status that reports why there are
none. -/
def held (files : Storage) (request : Request) : BuiltIn → Except Nat Bytes
  | bytes r => .ok r.content
  | file r =>
    match files.open? r.path with
    | .ok (.regular content _) => .ok content
    | .ok .directory => .error 404
    | .error cause =>
      match cause.kind with
      | .notFound => .error 404
      | .permissionDenied => .error 403
      | _ => .error 500
  | image _ _ _ generate =>
    match generate request with
    | some content => .ok content
    | none => .error 404

/-- When the resource was last modified, where that can be told. -/
def modified? (files : Storage) : BuiltIn → Option Instant
  | bytes r => some r.lastModified
  | file r =>
    match files.open? r.path with
    | .ok (.regular _ modified) => some modified
    | _ => none
  | image _ lastModified _ _ => some lastModified

/-- How long caches may keep the resource: its own lifetime, or else the one that is set for all. -/
def lifetime (settings : ResourceSettings) : BuiltIn → Duration
  | bytes r => r.lifetime.getD settings.defaultLifetime
  | file r => r.lifetime.getD settings.defaultLifetime
  | image _ _ lifetime _ => lifetime.getD settings.defaultLifetime

/-- Which caches may keep the resource. -/
def scope : BuiltIn → CacheScope
  | bytes r => r.scope
  | file r => r.scope
  | image _ _ _ _ => .personal

/-- How the resource is described, and how often an image was generated for that. -/
def describeCounted (files : Storage) (settings : ResourceSettings) (request : Request) :
    BuiltIn → Description × Nat
  | bytes r => (r.describe settings request, 0)
  | file r => (r.describe files settings request, 0)
  | image format lastModified lifetime generate =>
    let counted : StateM Nat (Option Bytes) :=
      modifyGet fun count => (generate request, count + 1)
    (ImageResource.describeIn format lastModified lifetime counted settings request).run 0

/-- Answers a request, and tells how often an image was generated for the answer. -/
def respondCounted {σ : Type} [Sink σ] (r : BuiltIn) (files : Storage)
    (settings : ResourceSettings) (request : Request) (sink : σ) :
    (Except ResourceError Unit × σ) × Nat :=
  let (d, count) := r.describeCounted files settings request
  (d.respond settings request sink, count)

end BuiltIn

end WebMount
