import WebMount.Mount.Pattern
import WebMount.Storage.Basic
import WebMount.Xml.Entity
import WebMount.Xml.Event

/-!
# Deployment descriptors

A deployment descriptor maps names of filters and of servlets to url patterns. The scan goes
through the events of the document and remembers, inside a mapping of the kind looked for, the
innermost element begun last, the name given last and the patterns. At the end of a mapping that
gives the name looked for, its patterns are added to the filter paths found. The first fault in
document order decides.
-/

namespace WebMount.Mount.Descriptor

open WebMount.Xml

/-- What a mapping can be for. -/
inductive MappingKind where
  | filter
  | servlet
  deriving DecidableEq, Repr

/-- The element that holds a mapping of the kind. -/
def MappingKind.mappingTag : MappingKind → Bytes
  | filter => Utf8.ofString "filter-mapping"
  | servlet => Utf8.ofString "servlet-mapping"

/-- The element that holds the name in a mapping of the kind. -/
def MappingKind.nameTag : MappingKind → Bytes
  | filter => Utf8.ofString "filter-name"
  | servlet => Utf8.ofString "servlet-name"

/-- The element that holds a pattern. -/
def patternTag : Bytes := Utf8.ofString "url-pattern"

/-- What the scan remembers. -/
structure Scan where
  inMapping : Bool := false
  element : Option Bytes := none
  mappedName : Option String := none
  patterns : List String := []
  paths : List String := []
  deriving DecidableEq, Repr

/-- The text of character data, its references replaced and without blanks at its ends. -/
def textOf? (content : Bytes) : Option String := do
  let decoded ← Utf8.decode? content
  let text ← unescape? decoded
  return String.ofList (Text.trim text)

/-- The paths with those of the patterns added that are not among them yet. -/
def addPatterns (paths : List String) : List String → Except MountError (List String)
  | [] => .ok paths
  | pattern :: patterns =>
    match ofUrlPattern pattern with
    | .ok path => addPatterns (if path ∈ paths then paths else paths ++ [path]) patterns
    | .error e => .error e

/-- One event of the scan for mappings of a kind to a name. -/
def Scan.step (kind : MappingKind) (name : String) (s : Scan) : Event → Except MountError Scan
  | .startTag tag =>
    .ok <|
      if tag = kind.mappingTag then { s with inMapping := true, mappedName := none, patterns := [] }
      else if s.inMapping then { s with element := some tag }
      else s
  | .text content =>
    if s.inMapping then
      match textOf? content with
      | none => .error .malformedDescriptor
      | some text =>
        .ok <|
          if s.element = some kind.nameTag then { s with mappedName := some text }
          else if s.element = some patternTag then { s with patterns := s.patterns ++ [text] }
          else s
    else .ok s
  | .endTag tag =>
    if tag = kind.mappingTag then
      if s.mappedName = some name then
        match addPatterns s.paths s.patterns with
        | .ok paths =>
          .ok { s with inMapping := false, element := none, patterns := [], paths := paths }
        | .error e => .error e
      else .ok { s with inMapping := false, element := none }
    else .ok { s with element := none }
  | .malformed => .error .malformedDescriptor

/-- The scan of a list of events. -/
def Scan.run (kind : MappingKind) (name : String) (s : Scan) : List Event → Except MountError Scan
  | [] => .ok s
  | event :: events =>
    match s.step kind name event with
    | .ok s => s.run kind name events
    | .error e => .error e

/-- The distinct filter paths that a descriptor maps to a name, in document order. -/
def filterPaths (kind : MappingKind) (name : String) (document : Bytes) :
    Except MountError (List String) :=
  (Scan.run kind name {} (events document)).map Scan.paths

/-- The only one of the filter paths mapped to a name. -/
def unique (name : String) : List String → Except MountError String
  | [] => .error (.notMapped name)
  | [path] => .ok path
  | paths => .error (.ambiguous name paths)

/-- The filter path that a descriptor maps to a name. -/
def filterPath (kind : MappingKind) (name : String) (document : Bytes) :
    Except MountError String :=
  filterPaths kind name document >>= unique name

/-- The filter path that a stored descriptor maps to a name. A directory opens, but has no
document in it. -/
def filterPathIn (files : Storage) (kind : MappingKind) (name file : String) :
    Except MountError String :=
  match files.open? file with
  | .ok (.regular content _) => filterPath kind name content
  | .ok .directory => .error .malformedDescriptor
  | .error e => .error (.unreadableDescriptor e)

end WebMount.Mount.Descriptor
