import WebMount.Config.Basic
import WebMount.Config.SocketAddress

/-!
# Faults of a configuration

A configuration that can be read may still make no sense. Every fault is reported, with the field
that it is in, in the order of the fields; a duplicate is reported at its second place.
-/

namespace WebMount.Config

open WebMount.Text

/-- What is wrong with a field. -/
inductive Fault where
  | notSocketAddress (text : String)
  | notPositive
  | noLeadingSlash
  | badPattern (reason : MountError)
  | missingName
  | notPathSegment
  | isEmpty
  | duplicateResource (scope name : String)
  | notMediaType (text : String)
  | notMarkupId
  | duplicateId (id : String)
  deriving DecidableEq, Repr

/-- The wording of a fault. -/
def Fault.message : Fault → String
  | notSocketAddress text => s!"'{text}' is not a socket address"
  | notPositive => "must be greater than 0"
  | noLeadingSlash => "must start with '/'"
  | badPattern reason => reason.message
  | missingName => "required when filter.web_xml is set"
  | notPathSegment => "must be a non-empty path segment"
  | isEmpty => "must not be empty"
  | duplicateResource scope name => s!"duplicate resource '{scope}/{name}'"
  | notMediaType text => s!"'{text}' is not a mime type"
  | notMarkupId => "must be a non-empty markup id ([A-Za-z0-9_-])"
  | duplicateId id => s!"duplicate id '{id}'"

/-- A fault and the field that it is in. -/
structure Finding where
  field : String
  fault : Fault
  deriving DecidableEq, Repr

/-- The wording of a finding. -/
def Finding.message (f : Finding) : String :=
  s!"{f.field}: {f.fault.message}"

/-- A finding if a condition holds. -/
def findingIf (condition : Bool) (field : String) (fault : Fault) : List Finding :=
  if condition then [⟨field, fault⟩] else []

/-- The elements of a list that satisfy `report`, each with its place and the elements before it. -/
def reportEach {α : Type} (report : (place : Nat) → (before : List α) → α → List Finding) :
    (before : List α) → List α → List Finding
  | _, [] => []
  | before, a :: l => report before.length before a ++ reportEach report (before ++ [a]) l

/-- Whether a text is no socket address. -/
def isNoSocketAddress (text : String) : Bool :=
  (SocketAddress.parse? text).isNone

/-- The faults of the mount. -/
def Filter.findings (f : Filter) : List Finding :=
  findingIf (f.contextPath ≠ "" ∧ f.contextPath.toList.head? ≠ some '/') "filter.context_path"
      .noLeadingSlash
    ++ (match f.urlPattern.map Mount.ofUrlPattern with
      | some (.error reason) => [⟨"filter.filter_mapping_url_pattern", .badPattern reason⟩]
      | _ => [])
    ++ findingIf (f.descriptor.isSome ∧ isAllBlank f.name) "filter.filter_name" .missingName

/-- Whether two files are the same shared resource. -/
def File.sameResource (a b : File) : Bool :=
  a.scope == b.scope && a.name == b.name

/-- The faults of a file, in the light of the files before it. -/
def File.findings (place : Nat) (before : List File) (f : File) : List Finding :=
  let field (name : String) := s!"resources.files[{place}].{name}"
  findingIf (f.scope = "" ∨ '/' ∈ f.scope.toList) (field "scope") .notPathSegment
    ++ findingIf (f.name = "") (field "name") .isEmpty
    ++ findingIf (f.path = "") (field "path") .isEmpty
    ++ findingIf (before.any f.sameResource) (field "name") (.duplicateResource f.scope f.name)

/-- The faults of the shared resources. -/
def Resources.findings (r : Resources) : List Finding :=
  reportEach File.findings [] r.files
    ++ r.mediaTypes.flatMap fun (name, mediaType) =>
      findingIf ('/' ∉ mediaType.toList) s!"resources.mime_types.{name}" (.notMediaType mediaType)

/-- Whether a text can be the id of an element. -/
def isMarkupId (id : String) : Bool :=
  id != "" && id.toList.all fun c => c.isAlphanum || c == '-' || c == '_'

/-- The faults of a suggestion field, in the light of the fields before it. -/
def Suggestions.findings (place : Nat) (before : List Suggestions) (s : Suggestions) :
    List Finding :=
  let field (name : String) := s!"autocomplete[{place}].{name}"
  findingIf (!isMarkupId s.id) (field "id") .notMarkupId
    ++ findingIf (before.any fun b => b.id == s.id) (field "id") (.duplicateId s.id)
    ++ findingIf (s.limit = 0) (field "max_results") .notPositive

end Config

/-- All faults of a configuration. -/
def Config.findings (c : Config) : List Config.Finding :=
  Config.findingIf (Config.isNoSocketAddress c.listener.bindAddress) "listener.bind_address"
      (.notSocketAddress c.listener.bindAddress)
    ++ Config.findingIf (c.timeouts.requestSeconds = 0) "timeouts.request_secs" .notPositive
    ++ Config.findingIf
      (c.observation.metricsEnabled && Config.isNoSocketAddress c.observation.metricsAddress)
      "observability.metrics_address" (.notSocketAddress c.observation.metricsAddress)
    ++ c.filter.findings ++ c.resources.findings
    ++ Config.reportEach Config.Suggestions.findings [] c.suggestions

/-- Whether a configuration makes sense; all its faults if it does not. -/
def Config.validate (c : Config) : Except (List Config.Finding) Unit :=
  match c.findings with
  | [] => .ok ()
  | findings => .error findings

end WebMount
