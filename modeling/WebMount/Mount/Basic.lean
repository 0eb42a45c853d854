import WebMount.Mount.Descriptor

/-!
# The mount

A web application is mounted below a context path and a filter path. The filter path is found
when it is first needed, or is fixed by hand before that, and never changes afterwards: every
operation is a step from a mount to an answer and the mount after it. A source that gives no
filter path means the root of the context.
-/

namespace WebMount

open WebMount.Text

/-- Where the filter path comes from. -/
inductive MountSource where
  /-- No source; the filter path is empty. -/
  | root
  /-- A filter path as text. -/
  | explicit (path : String)
  /-- A url pattern. -/
  | urlPattern (pattern : String)
  /-- The mapping of a name in a stored descriptor. -/
  | descriptor (kind : Mount.Descriptor.MappingKind) (name file : String)
  deriving DecidableEq, Repr

/-- A context path, and a filter path that is fixed or still to be found. -/
structure Mount where
  contextPath : String
  source : MountSource
  fixed : Option String := none
  deriving DecidableEq, Repr

namespace Mount

/-- A mount whose filter path is not fixed yet. -/
def create (contextPath : String) (source : MountSource) : Mount :=
  { contextPath := canonicalContextPath contextPath, source }

/-- The filter path that the source gives, with the reason if it gives none. -/
def sourcePath? (files : Storage) : MountSource → Except MountError String
  | .root => .ok ""
  | .explicit path => .ok (canonicalFilterPath path)
  | .urlPattern pattern => ofUrlPattern pattern
  | .descriptor kind name file => Descriptor.filterPathIn files kind name file

/-- The filter path that the source gives, or the root. -/
def sourcePath (files : Storage) (source : MountSource) : String :=
  match sourcePath? files source with
  | .ok path => path
  | .error _ => ""

/-- The filter path: the fixed one, or the one that the source gives now. -/
def filterPath (files : Storage) (m : Mount) : String :=
  m.fixed.getD (sourcePath files m.source)

/-- The mount with its filter path fixed to what it is now. -/
def resolve (files : Storage) (m : Mount) : Mount :=
  { m with fixed := some (m.filterPath files) }

/-- The mount with its filter path fixed by hand, unless it is fixed already. -/
def fix (m : Mount) (path : String) : Except MountError Mount :=
  match m.fixed with
  | some current => .error (.alreadyFixed current)
  | none => .ok { m with fixed := some (canonicalFilterPath path) }

/-- A text without a slash at its end. -/
def withoutSlash (s : String) : String :=
  match dropEnd? ['/'] s.toList with
  | some stem => String.ofList stem
  | none => s

/-- The path of the mount itself: context path and filter path without the slash at the end. -/
def home (contextPath filterPath : String) : String :=
  withoutSlash (contextPath ++ "/" ++ withoutSlash filterPath)

/-- The length in bytes that the path of the mount must have to be redirected. -/
def homeLength (contextPath filterPath : String) : Nat :=
  let length := (withoutSlash filterPath).utf8ByteSize
  contextPath.utf8ByteSize + if 0 < length then 1 + length else 0

/-- Where a request is redirected to: a request for the mount itself, without a slash at its end,
goes to the same path with a slash. -/
def redirectTarget? (contextPath filterPath requestPath query : String) : Option String :=
  let path := withoutParameters requestPath
  if path.utf8ByteSize = homeLength contextPath filterPath ∧ path = home contextPath filterPath then
    some (path ++ "/" ++ if query = "" then "" else "?" ++ query)
  else none

/-- The part of a request path below a mount. -/
def relativeTo? (contextPath filterPath requestPath : String) : Option String := do
  let path := (withoutParameters requestPath).toList
  let path ← dropStart? contextPath.toList path
  let path ← dropStart? ['/'] path
  let path ← dropStart? filterPath.toList path
  return String.ofList path

/-- The path of something below a mount. -/
def urlBelow (contextPath filterPath relative : String) : String :=
  contextPath ++ "/" ++ filterPath ++ relative

/-- An operation on a mount that is shared by everyone who serves requests. -/
inductive Operation where
  | fix (path : String)
  | filterPath
  | contextPath
  | isResolved
  | redirect (path query : String)
  | relative (path : String)
  | url (relative : String)
  deriving DecidableEq, Repr

/-- The answer to an operation. -/
inductive Answer where
  | done
  | refused (reason : MountError)
  | text (value : String)
  | maybe (value : Option String)
  | flag (value : Bool)
  deriving DecidableEq, Repr

/-- One operation: its answer and the mount afterwards. `fix`, `contextPath` and `isResolved` do
not look at the source; the other operations fix the filter path if it is not fixed yet. -/
def step (files : Storage) (m : Mount) : Operation → Answer × Mount
  | .fix path =>
    match m.fix path with
    | .ok m => (.done, m)
    | .error e => (.refused e, m)
  | .contextPath => (.text m.contextPath, m)
  | .isResolved => (.flag m.fixed.isSome, m)
  | .filterPath => (.text (m.filterPath files), m.resolve files)
  | .redirect path query =>
    (.maybe (redirectTarget? m.contextPath (m.filterPath files) path query), m.resolve files)
  | .relative path =>
    (.maybe (relativeTo? m.contextPath (m.filterPath files) path), m.resolve files)
  | .url relative => (.text (urlBelow m.contextPath (m.filterPath files) relative), m.resolve files)

end Mount

end WebMount
