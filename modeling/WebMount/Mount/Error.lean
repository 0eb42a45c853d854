import WebMount.Storage.IoError
import WebMount.Text.Quoted

/-!
# What can be wrong with a mount

The reasons for which a filter path cannot be found or fixed, and their wording.
-/

namespace WebMount

/-- A reason for which a filter path cannot be found or fixed. -/
inductive MountError where
  /-- The descriptor maps nothing to the name. -/
  | notMapped (name : String)
  /-- The descriptor maps several filter paths to the name. -/
  | ambiguous (name : String) (paths : List String)
  /-- A pattern is neither `/*` nor of the form `/a/*`. -/
  | unsupportedPattern (pattern : String)
  /-- The descriptor is not a well-formed document. -/
  | malformedDescriptor
  /-- The descriptor cannot be read. -/
  | unreadableDescriptor (cause : IoError)
  /-- The filter path is fixed already. -/
  | alreadyFixed (current : String)
  deriving DecidableEq, Repr

namespace MountError

/-- The wording of the reason. -/
def message : MountError → String
  | notMapped name => s!"no <url-pattern> mapped to '{name}' in the deployment descriptor"
  | ambiguous name paths =>
    let listed := String.ofList (Text.quotedList (paths.map String.toList))
    s!"'{name}' is mapped to several paths ({listed}); only one is supported"
  | unsupportedPattern pattern =>
    s!"unsupported url-pattern '{pattern}': expected '/*' or '/<prefix>/*'"
  | malformedDescriptor => "malformed deployment descriptor"
  | unreadableDescriptor cause => s!"failed to read deployment descriptor: {cause.message}"
  | alreadyFixed current => s!"filter path is write-once; current value is '{current}'"

end MountError

end WebMount
