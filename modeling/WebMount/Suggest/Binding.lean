import WebMount.Markup.ScriptLiteral
import WebMount.Suggest.Field

/-!
# The call that binds a suggestion field, as a client reads it

The script behind a field makes one call, with two literals: the markup id of the field and the
address of its suggestions.
-/

namespace WebMount

open WebMount.Text

/-- The arguments of the call that binds a field. -/
structure Binding where
  id : String
  url : String
  deriving DecidableEq, Repr

namespace Binding

/-- The call with its two literals. -/
def reader : Reader Binding := do
  Reader.literal "new WicketAutoComplete(".toList
  let id ← Markup.scriptLiteral
  Reader.char ','
  let url ← Markup.scriptLiteral
  Reader.literal ");".toList
  return { id := String.ofList id, url := String.ofList url }

/-- The arguments of a statement that is such a call and nothing else. -/
def read? (statement : String) : Option Binding :=
  reader.whole statement.toList

end Binding

end WebMount
