import WebMount.Text.Slice

/-!
# Routes below a mount

The part of a request path below the mount addresses a shared resource by scope and name, or a
suggestion field by its id. Each family of addresses begins with a text of its own; the families
are tried in order and the first one that matches decides.
-/

namespace WebMount

open WebMount.Text

/-- What a request addresses. -/
inductive Target where
  | resource (scope name : String)
  | suggestions (id : String)
  deriving DecidableEq, Repr

/-- A family of addresses, by the text that they begin with. -/
inductive Route where
  /-- The beginning, a scope without slashes, a slash and a name. -/
  | resources (start : String)
  /-- The beginning and an id without slashes. -/
  | suggestions (start : String)
  deriving DecidableEq, Repr

namespace Route

/-- What the addresses of shared resources begin with. -/
def resourceStart : String := "wicket/resource/"

/-- What the addresses of suggestion fields begin with. -/
def suggestionStart : String := "wicket/autocomplete/"

/-- The two families of addresses of an application. -/
def standard : List Route := [resources resourceStart, suggestions suggestionStart]

/-- What a path addresses in a family. -/
def match? : Route → String → Option Target
  | resources start, path => do
    let rest ← dropStart? start.toList path.toList
    let (scope, name) ← splitFirst? '/' rest
    if scope = [] ∨ name = [] then none
    else some (.resource (String.ofList scope) (String.ofList name))
  | suggestions start, path => do
    let id ← dropStart? start.toList path.toList
    if id = [] ∨ '/' ∈ id then none else some (.suggestions (String.ofList id))

/-- What a path addresses. -/
def resolve? (routes : List Route) (path : String) : Option Target :=
  routes.findSome? (·.match? path)

end Route

end WebMount
