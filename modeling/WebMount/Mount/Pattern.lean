import WebMount.Mount.Error
import WebMount.Text.Blank
import WebMount.Text.Slice

/-!
# Canonical paths of a mount

A filter path is canonical if it is empty or ends with a slash and does not start with one; a
context path is canonical if it is empty or starts with a slash. The functions here make paths
canonical and read url patterns, which name a filter path by `/*` or `/a/*`.
-/

namespace WebMount.Mount

open WebMount.Text

/-- The canonical form of a filter path: a slash at its front and a star at its end are dropped,
and a slash is put at the end unless nothing is left. -/
def canonicalFilterPath (path : String) : String :=
  let path := path.toList
  let path := (dropStart? ['/'] path).getD path
  let path := (dropEnd? ['*'] path).getD path
  if path = [] ∨ path.getLast? = some '/' then String.ofList path
  else String.ofList (path ++ ['/'])

/-- The canonical form of a context path: no slashes at its end and just one at its front, unless
nothing else is left. -/
def canonicalContextPath (path : String) : String :=
  match strip (· == '/') path.toList with
  | [] => ""
  | name => String.ofList ('/' :: name)

/-- The filter path that a url pattern stands for. -/
def ofUrlPattern (pattern : String) : Except MountError String :=
  let pattern := trim pattern.toList
  match pattern, dropEnd? ['/', '*'] pattern with
  | '/' :: rest, some _ => .ok (String.ofList rest.dropLast)
  | _, _ => .error (.unsupportedPattern (String.ofList pattern))

/-- A path without the parameters that a semicolon begins. -/
def withoutParameters (path : String) : String :=
  String.ofList (upTo ';' path.toList)

end WebMount.Mount
