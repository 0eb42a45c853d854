import WebMount.Config.Basic
import WebMount.Resource.Registry
import WebMount.Server.Shutdown
import WebMount.Suggest.ClientScript
import WebMount.Suggest.Field

/-!
# The server

A server is assembled from a configuration: a mount, the shared resources with the client script
among them, the suggestion fields and the settings for resources. Everything can be added to while
it serves requests. A new configuration replaces the settings for resources and nothing else.
-/

namespace WebMount

open WebMount.Time

/-- The settings for resources that a configuration describes. -/
def ResourceSettings.ofConfig (r : Config.Resources) : ResourceSettings :=
  { defaultLifetime := .ofSeconds r.lifetimeSeconds, mediaTypes := .ofList r.mediaTypes }

/-- The client script as a shared resource, which caches may keep as long as they can. -/
def BytesResource.clientScript (lastModified : Instant) : BytesResource :=
  { contentType := "text/javascript"
    content := Utf8.ofString Suggest.clientScript
    lastModified
    fileName := some SuggestionField.scriptName
    lifetime := some maxLifetime }

namespace Config

/-- The resource that a file in a configuration stands for. -/
def File.resource (f : File) : FileResource :=
  { path := f.path
    contentType := f.contentType
    textEncoding := f.textEncoding
    disposition := f.disposition
    lifetime := f.lifetimeSeconds.map .ofSeconds
    scope := f.cacheScope }

/-- The key under which a file in a configuration is shared. -/
def File.key (f : File) : ResourceKey :=
  ⟨f.scope, f.name⟩

/-- The suggestion field that a configuration describes. -/
def Suggestions.field (s : Suggestions) : SuggestionField :=
  ⟨s.id, .fixed s.choices s.limit⟩

end Config

/-- A server. -/
structure Server where
  bindAddress : String
  mount : Mount
  routes : List Route := Route.standard
  resources : Registry
  fields : SuggestionFields
  settings : ResourceSettings
  shutdown : Shutdown := {}
  /-- The place of the serving task among those that listen for the shutdown signal, while it is
  serving. -/
  serving : Option Nat := none

namespace Server

/-- The key of the client script. -/
def scriptKey : ResourceKey :=
  ⟨SuggestionField.scriptScope, SuggestionField.scriptName⟩

/-- The shared resources that a configuration describes. -/
def resourcesOf (files : List Config.File) (start : Instant) : Registry :=
  files.foldl (fun registry f => registry.insert f.key (.file f.resource))
    (Registry.insert {} scriptKey (.bytes (.clientScript start)))

/-- The server that a configuration describes. -/
def assemble (config : Config) (start : Instant) : Server :=
  { bindAddress := config.listener.bindAddress
    mount := config.filter.mount
    resources := resourcesOf config.resources.files start
    fields := .ofList (config.suggestions.map Config.Suggestions.field)
    settings := .ofConfig config.resources }

/-- The server with a resource shared under a key, and whether it took the place of another. -/
def share (s : Server) (key : ResourceKey) (resource : Resource) : Bool × Server :=
  ((s.resources.get? key).isSome, { s with resources := s.resources.insert key resource })

/-- The server without the resource under a key, and whether there was one. -/
def unshare (s : Server) (key : ResourceKey) : Bool × Server :=
  ((s.resources.get? key).isSome, { s with resources := s.resources.erase key })

/-- The server with a suggestion field, and whether it took the place of another. -/
def addField (s : Server) (field : SuggestionField) : Bool × Server :=
  ((s.fields.get? field.id).isSome, { s with fields := s.fields.insert field })

/-- The server with its filter path fixed by hand. -/
def fixFilterPath (s : Server) (path : String) : Except MountError Server :=
  (s.mount.fix path).map fun mount => { s with mount }

/-- The server after a new configuration. -/
def reload (s : Server) (config : Config) : Server :=
  { s with settings := .ofConfig config.resources }

/-- The server with its serving task started, unless it is serving already. -/
def serve (s : Server) : Server :=
  match s.serving with
  | some _ => s
  | none =>
    let (place, shutdown) := s.shutdown.subscribe
    { s with shutdown, serving := some place }

/-- The shutdown signal to a server that is serving: the number of tasks that it reached, and the
server with its serving task done. -/
def stop (s : Server) : Option Nat × Server :=
  match s.serving with
  | none => (none, s)
  | some place =>
    let (reached, shutdown) := s.shutdown.trigger
    (some reached, { s with shutdown := shutdown.unsubscribe place, serving := none })

end Server

end WebMount
