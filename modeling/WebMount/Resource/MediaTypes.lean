import WebMount.Lookup
import WebMount.Resource.MediaTypeTable
import WebMount.Storage.Path
import WebMount.Text.CaseFolding
import WebMount.Text.LowerCase

/-!
# Media types

The media type of a file is found by the extension of its name, first among those registered for
the application and then in a table of well-known extensions. Registered extensions are compared
without regard to the case of the letters `A` to `Z`, well-known ones without regard to the case of
any letter.
-/

namespace WebMount

/-- Media types registered by extension, which is in lower case and has no dots in front. -/
structure MediaTypes where
  registered : List (String × String) := []
  deriving DecidableEq, Repr

namespace MediaTypes

/-- An extension in lower case. -/
def canonicalExtension (name : String) : String :=
  String.ofList (Text.toLowerAscii name.toList)

/-- The media types with one registered, in place of the one for its extension. -/
def register (types : MediaTypes) (name mediaType : String) : MediaTypes :=
  let name := canonicalExtension (String.ofList (name.toList.dropWhile (· == '.')))
  ⟨put name mediaType types.registered⟩

/-- The media types of a list of extensions, registered in order. -/
def ofList (entries : List (String × String)) : MediaTypes :=
  entries.foldl (fun types (name, mediaType) => types.register name mediaType) {}

/-- The media type for a file name. -/
def typeOf? (types : MediaTypes) (fileName : String) : Option String := do
  let name := canonicalExtension (← Path.extension? fileName)
  types.registered.lookup name
    <|> wellKnownMediaTypes.lookup (String.ofList (Text.foldCase name.toList))

end MediaTypes

end WebMount
