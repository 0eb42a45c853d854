import WebMount.Suggest.Field
import WebMount.Text.Reader
import WebMount.Xml.Entity

/-!
# Lists of suggestions as a client reads them

The list of the suggestions for a text is read item by item: the value of an item is its attribute,
which ends at the next quote, and its label is its content, which ends at the next tag. What a value
or a label says is its text with the references in it replaced.
-/

namespace WebMount

open WebMount.Text

/-- An item of a list of suggestions, with its texts as they stand in the markup. -/
structure SuggestionItem where
  value : String
  label : String
  deriving DecidableEq, Repr

namespace SuggestionItem

/-- The markup of an item. -/
def markup (item : SuggestionItem) : String :=
  "<li textvalue=\"" ++ item.value ++ "\">" ++ item.label ++ "</li>"

/-- The markup of a list of items. -/
def listMarkup (items : List SuggestionItem) : String :=
  "<ul>" ++ String.join (items.map markup) ++ "</ul>"

/-- The next item. -/
def reader : Reader SuggestionItem := do
  Reader.literal "<li textvalue=\"".toList
  let value ← Reader.through '"'
  Reader.char '>'
  let label ← Reader.through '<'
  Reader.literal "/li>".toList
  return { value := String.ofList value, label := String.ofList label }

/-- The items of a list. -/
def listReader : Reader (List SuggestionItem) := do
  Reader.literal "<ul>".toList
  let items ← Reader.repeated reader
  Reader.literal "</ul>".toList
  return items

/-- The items of the markup of a list, if it is one. -/
def readList? (markup : String) : Option (List SuggestionItem) :=
  listReader.whole markup.toList

/-- What a value or a label says. -/
def said? (text : String) : Option String :=
  (Xml.unescape? text.toList).map String.ofList

end SuggestionItem

end WebMount
