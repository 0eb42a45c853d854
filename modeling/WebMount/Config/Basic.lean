import WebMount.Mount.Basic
import WebMount.Response.Caching
import WebMount.Response.Disposition

/-!
# Configurations

What can be set from outside: the address to listen at, the mount, the shared resources, the
suggestion fields, time limits and what is observed. Everything that can be left out has its
default here.
-/

namespace WebMount

namespace Config

/-- Where to listen. -/
structure Listener where
  bindAddress : String := "0.0.0.0:8080"
  deriving DecidableEq, Repr

/-- Where the application is mounted. -/
structure Filter where
  /-- The name to look up in the descriptor. -/
  name : String := "WicketFilter"
  contextPath : String := ""
  path : Option String := none
  urlPattern : Option String := none
  /-- The file with the descriptor. -/
  descriptor : Option String := none
  isServlet : Bool := false
  deriving DecidableEq, Repr

/-- A file that is served as a shared resource. -/
structure File where
  scope : String := "app"
  name : String
  path : String
  contentType : Option String := none
  textEncoding : Option String := none
  disposition : Disposition := .inline
  lifetimeSeconds : Option Nat := none
  cacheScope : CacheScope := .personal
  deriving DecidableEq, Repr

/-- The shared resources. -/
structure Resources where
  lifetimeSeconds : Nat := 3600
  /-- The media types of extensions. -/
  mediaTypes : List (String × String) := []
  files : List File := []
  deriving DecidableEq, Repr

/-- A suggestion field with fixed choices. -/
structure Suggestions where
  id : String
  choices : List String
  limit : Nat := 10
  deriving DecidableEq, Repr

/-- Time limits. -/
structure Timeouts where
  requestSeconds : Nat := 30
  deriving DecidableEq, Repr

/-- What is observed. -/
structure Observation where
  logLevel : String := "info"
  metricsEnabled : Bool := false
  metricsAddress : String := "0.0.0.0:9090"
  deriving DecidableEq, Repr

end Config

/-- A configuration. -/
structure Config where
  listener : Config.Listener := {}
  filter : Config.Filter := {}
  resources : Config.Resources := {}
  suggestions : List Config.Suggestions := []
  timeouts : Config.Timeouts := {}
  observation : Config.Observation := {}
  deriving DecidableEq, Repr

/-- Where the filter path comes from: it is given, or a url pattern gives it, or a descriptor. -/
def Config.Filter.source (f : Config.Filter) : MountSource :=
  match f.path, f.urlPattern, f.descriptor with
  | some path, _, _ => .explicit path
  | none, some pattern, _ => .urlPattern pattern
  | none, none, some file => .descriptor (if f.isServlet then .servlet else .filter) f.name file
  | none, none, none => .root

/-- The mount that a configuration describes. -/
def Config.Filter.mount (f : Config.Filter) : Mount :=
  .create f.contextPath f.source

end WebMount
