import WebMount.Config.Basic
import WebMount.Toml.Value

/-!
# Configurations as values

A configuration is read from a table of a document. A record is a table of named fields, and
unknown fields are ignored; an array does for a record too and gives the fields in their order.
Numbers are natural numbers of 64 bits.
-/

namespace WebMount.Config

open WebMount.Toml (Value Entries)

/-- The fields of a record, by name or in their order. -/
inductive Fields where
  | named (entries : Entries)
  | listed (items : List Value)
  deriving Repr

namespace Fields

variable {α : Type}

/-- The fields of a record. -/
def of? (v : Value) : Option Fields :=
  named <$> v.entries? <|> listed <$> v.items?

/-- The value of a field, given by its place in the order and its name. -/
def value? : Fields → (place : Nat) → (name : String) → Option Value
  | named entries, _, name => entries.lookup name
  | listed items, place, _ => items[place]?

/-- A field that must be there. -/
def required (fields : Fields) (place : Nat) (name : String) (read : Value → Option α) :
    Option α :=
  fields.value? place name >>= read

/-- A field with a default. -/
def withDefault (fields : Fields) (place : Nat) (name : String) (read : Value → Option α)
    (default : α) : Option α :=
  match fields.value? place name with
  | some v => read v
  | none => some default

/-- A field that may be left out, but only by name. -/
def optional (fields : Fields) (place : Nat) (name : String) (read : Value → Option α) :
    Option (Option α) :=
  match fields, fields.value? place name with
  | _, some v => some <$> read v
  | named _, none => some none
  | listed _, none => none

end Fields

/-- A text. -/
def text? : Value → Option String
  | .string s => some s
  | _ => none

/-- A truth value. -/
def flag? : Value → Option Bool
  | .boolean b => some b
  | _ => none

/-- The natural numbers are below this. -/
def naturalLimit : Nat := Nat.pow 2 64

/-- A natural number. -/
def natural? : Value → Option Nat
  | .integer n => if 0 ≤ n ∧ n < naturalLimit then some n.toNat else none
  | _ => none

/-- The elements of an array. -/
def list? {α : Type} (read : Value → Option α) (v : Value) : Option (List α) :=
  v.items? >>= List.mapM read

/-- The entries of a table of texts. -/
def texts? (v : Value) : Option (List (String × String)) :=
  v.entries? >>= List.mapM fun (name, v) => (name, ·) <$> text? v

/-- An empty array or table. -/
def isEmptyCollection (v : Value) : Bool :=
  match v with
  | .array [] | .series [] | .table _ [] => true
  | _ => false

/-- One of several words. A word is also written as a table with an empty entry of its name. -/
def word? {α : Type} (words : List (String × α)) : Value → Option α
  | .string s => words.lookup s
  | .table _ [(name, v)] => if isEmptyCollection v then words.lookup name else none
  | _ => none

/-- The words for the kinds of presentation. -/
def dispositionWords : List (String × Disposition) :=
  [Disposition.inline, .attachment].map fun d => (d.word, d)

/-- The words for the scopes of caches. -/
def cacheScopeWords : List (String × CacheScope) :=
  [CacheScope.personal, .common].map fun s => (s.word, s)

/-- Where to listen. -/
def Listener.decode? (v : Value) : Option Listener := do
  let f ← Fields.of? v
  let default : Listener := {}
  return { bindAddress := ← f.withDefault 0 "bind_address" text? default.bindAddress }

/-- Where the application is mounted. -/
def Filter.decode? (v : Value) : Option Filter := do
  let f ← Fields.of? v
  let default : Filter := {}
  return {
    name := ← f.withDefault 0 "filter_name" text? default.name
    contextPath := ← f.withDefault 1 "context_path" text? default.contextPath
    path := ← f.withDefault 2 "filter_path" (some <$> text? ·) default.path
    urlPattern := ← f.withDefault 3 "filter_mapping_url_pattern" (some <$> text? ·)
      default.urlPattern
    descriptor := ← f.withDefault 4 "web_xml" (some <$> text? ·) default.descriptor
    isServlet := ← f.withDefault 5 "is_servlet" flag? default.isServlet }

/-- A file that is served as a shared resource. -/
def File.decode? (v : Value) : Option File := do
  let f ← Fields.of? v
  let default : File := { name := "", path := "" }
  return {
    scope := ← f.withDefault 0 "scope" text? default.scope
    name := ← f.required 1 "name" text?
    path := ← f.required 2 "path" text?
    contentType := ← f.optional 3 "content_type" text?
    textEncoding := ← f.optional 4 "text_encoding" text?
    disposition := ← f.withDefault 5 "disposition" (word? dispositionWords) default.disposition
    lifetimeSeconds := ← f.optional 6 "cache_secs" natural?
    cacheScope := ← f.withDefault 7 "cache_scope" (word? cacheScopeWords) default.cacheScope }

/-- The shared resources. -/
def Resources.decode? (v : Value) : Option Resources := do
  let f ← Fields.of? v
  let default : Resources := {}
  return {
    lifetimeSeconds := ← f.withDefault 0 "default_cache_secs" natural? default.lifetimeSeconds
    mediaTypes := ← f.withDefault 1 "mime_types" texts? default.mediaTypes
    files := ← f.withDefault 2 "files" (list? File.decode?) default.files }

/-- A suggestion field. -/
def Suggestions.decode? (v : Value) : Option Suggestions := do
  let f ← Fields.of? v
  let default : Suggestions := { id := "", choices := [] }
  return {
    id := ← f.required 0 "id" text?
    choices := ← f.required 1 "choices" (list? text?)
    limit := ← f.withDefault 2 "max_results" natural? default.limit }

/-- Time limits. -/
def Timeouts.decode? (v : Value) : Option Timeouts := do
  let f ← Fields.of? v
  let default : Timeouts := {}
  return { requestSeconds := ← f.withDefault 0 "request_secs" natural? default.requestSeconds }

/-- What is observed. -/
def Observation.decode? (v : Value) : Option Observation := do
  let f ← Fields.of? v
  let default : Observation := {}
  return {
    logLevel := ← f.withDefault 0 "log_level" text? default.logLevel
    metricsEnabled := ← f.withDefault 1 "metrics_enabled" flag? default.metricsEnabled
    metricsAddress := ← f.withDefault 2 "metrics_address" text? default.metricsAddress }

/-- The configuration that a value denotes. -/
def decode? (v : Value) : Option Config := do
  let f ← Fields.of? v
  return {
    listener := ← f.withDefault 0 "listener" Listener.decode? {}
    filter := ← f.withDefault 1 "filter" Filter.decode? {}
    resources := ← f.withDefault 2 "resources" Resources.decode? {}
    suggestions := ← f.withDefault 3 "autocomplete" (list? Suggestions.decode?) []
    timeouts := ← f.withDefault 4 "timeouts" Timeouts.decode? {}
    observation := ← f.withDefault 5 "observability" Observation.decode? {} }

end WebMount.Config
