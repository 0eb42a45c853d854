import WebMount.Config.Decode
import WebMount.Config.Validation
import WebMount.Storage.Basic
import WebMount.Toml.Document

/-!
# Loading a configuration

A configuration is loaded from the text of a document or from a stored file, and is accepted only
if nothing is found wrong with it.
-/

namespace WebMount.Config

/-- Why no configuration is loaded. -/
inductive LoadError where
  | unreadable (cause : IoError)
  /-- The text is no document, or the document is no configuration. -/
  | malformed
  | invalid (findings : List Finding)
  deriving DecidableEq, Repr

/-- The wording of the reason. -/
def LoadError.message : LoadError → String
  | unreadable cause => s!"IO error: {cause.message}"
  | malformed => "Parse error"
  | invalid findings =>
    "Validation failed: " ++ ", ".intercalate (findings.map Finding.message)

/-- The configuration that a document denotes. -/
def parse (document : String) : Except LoadError Config :=
  match Toml.parse? document >>= decode? with
  | none => .error .malformed
  | some config =>
    match config.validate with
    | .ok () => .ok config
    | .error findings => .error (.invalid findings)

/-- The configuration in a stored file. -/
def load (files : Storage) (path : String) : Except LoadError Config :=
  match files.read path with
  | .error cause => .error (.unreadable cause)
  | .ok content =>
    match Utf8.decode? content with
    | none => .error (.unreadable .notUtf8)
    | some document => parse (String.ofList document)

end WebMount.Config
