import WebMount.Lookup
import WebMount.Markup.Escape
import WebMount.Mount.Basic
import WebMount.Request.Basic
import WebMount.Response.Command
import WebMount.Route
import WebMount.Suggest.Source

/-!
# Suggestion fields

A text field that offers suggestions: its markup id, its source, the addresses below the mount
that serve it, the scripts that bind it, and the answer to a request for suggestions. Texts are
escaped wherever they are put into markup or scripts, and answers are never cached.
-/

namespace WebMount

/-- A text field that offers suggestions. -/
structure SuggestionField where
  id : String
  source : SuggestionSource

namespace SuggestionField

/-- The scope of the client script among the shared resources. -/
def scriptScope : String := "autocomplete"

/-- The name of the client script among the shared resources. -/
def scriptName : String := "wicket-autocomplete.js"

/-- The query parameter with the text typed so far. -/
def inputParameter : String := "q"

/-- What stands in front of a script in a page. -/
def scriptOpen : String := "<script type=\"text/javascript\"><!--/*--><![CDATA[/*><!--*/\n"

/-- What stands behind a script in a page. -/
def scriptClose : String := "\n/*-->]]>*/</script>"

/-- The address of the suggestions, relative to the mount. -/
def relativeAddress (field : SuggestionField) : String :=
  Route.suggestionStart ++ field.id

/-- The address of the client script, relative to the mount. -/
def scriptAddress : String :=
  Route.resourceStart ++ scriptScope ++ "/" ++ scriptName

/-- The address of the suggestions. -/
def callbackUrl (field : SuggestionField) (contextPath filterPath : String) : String :=
  Mount.urlBelow contextPath filterPath field.relativeAddress

/-- The element for the head of a page that loads the client script. -/
def headMarkup (contextPath filterPath : String) : String :=
  let url := Mount.urlBelow contextPath filterPath scriptAddress
  "<script type=\"text/javascript\" src=\"" ++ Markup.escape url ++ "\"></script>"

/-- The script that binds the field to the address of its suggestions, without its tags. -/
def initStatement (field : SuggestionField) (contextPath filterPath : String) : String :=
  "new WicketAutoComplete('" ++ Markup.escapeScript field.id ++ "','"
    ++ Markup.escapeScript (field.callbackUrl contextPath filterPath) ++ "');"

/-- The element that binds the field to the address of its suggestions. -/
def initMarkup (field : SuggestionField) (contextPath filterPath : String) : String :=
  scriptOpen ++ field.initStatement contextPath filterPath ++ scriptClose

/-- A suggestion as an item of a list. -/
def itemMarkup (choice : String) : String :=
  let text := Markup.escape choice
  "<li textvalue=\"" ++ text ++ "\">" ++ text ++ "</li>"

/-- Suggestions as a list. -/
def listMarkup (choices : List String) : String :=
  "<ul>" ++ String.join (choices.map itemMarkup) ++ "</ul>"

/-- The list of the suggestions for a text. -/
def render (field : SuggestionField) (input : String) : String :=
  listMarkup (field.source.suggestions input)

/-- The text typed so far, as a request gives it. -/
def inputOf (request : Request) : String :=
  (request.parameter? inputParameter).getD ""

/-- What is said to a response to a request for suggestions. -/
def commands (field : SuggestionField) (request : Request) : List Response.Command :=
  let body := Utf8.ofString (field.render (inputOf request))
  [.contentType "text/xml; charset=utf-8", .disableCaching request.received,
   .contentLength body.length, .write body]

/-- Answers a request for suggestions. -/
def respond {σ : Type} [Sink σ] (field : SuggestionField) (request : Request) (sink : σ) :
    Except Response.Failure Unit × σ :=
  Response.performAll sink (field.commands request)

end SuggestionField

/-- The suggestion fields of an application by id. -/
structure SuggestionFields where
  entries : List (String × SuggestionField) := []

namespace SuggestionFields

/-- The field of an id. -/
def get? (fs : SuggestionFields) (id : String) : Option SuggestionField :=
  fs.entries.lookup id

/-- The fields with one put in, in place of the one with its id. -/
def insert (fs : SuggestionFields) (field : SuggestionField) : SuggestionFields :=
  ⟨put field.id field fs.entries⟩

/-- The number of fields. -/
def size (fs : SuggestionFields) : Nat :=
  fs.entries.length

/-- The fields of a list, a later one in place of an earlier one with its id. -/
def ofList (fields : List SuggestionField) : SuggestionFields :=
  fields.foldl insert {}

theorem get?_insert (fs : SuggestionFields) (field : SuggestionField) (id : String) :
    (fs.insert field).get? id = if id = field.id then some field else fs.get? id :=
  lookup_put _ _ _ _

end SuggestionFields

end WebMount
