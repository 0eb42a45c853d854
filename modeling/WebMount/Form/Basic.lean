import WebMount.Form.Component
import WebMount.Lookup
import WebMount.UrlEncoded

/-!
# Forms

A form has components in order and texts by key; the text under `form.component` is the label of
the component. A submitted body gives each component its input, the first value of a name
counting, and then every component is validated, whether or not an earlier one is valid.
-/

namespace WebMount

open WebMount.Form

/-- A form. -/
structure Form where
  id : String
  /-- The texts by key; of two for one key the first one counts. -/
  texts : List (String × String) := []
  components : List Component := []

namespace Form

/-- The label that the texts give to a component. -/
def labelFor? (f : Form) (componentId : String) : Option String :=
  f.texts.lookup (f.id ++ "." ++ componentId)

/-- The component with the label that the texts give to it. -/
def withLabel (f : Form) (c : Component) : Component :=
  { c with formLabel := f.labelFor? c.id }

/-- The form with a text set. -/
def setText (f : Form) (key text : String) : Form :=
  let f := { f with texts := (key, text) :: f.texts }
  { f with components := f.components.map f.withLabel }

/-- The form with one more component. -/
def add (f : Form) (c : Component) : Form :=
  { f with components := f.components ++ [f.withLabel c] }

/-- The first component of an id. -/
def get? (f : Form) (id : String) : Option Component :=
  f.components.find? fun c => c.id == id

/-- The components with the first one of an id changed, and what the change answers. -/
def modifyFirst {α : Type} (id : String) (change : Component → α × Component) :
    List Component → Option α × List Component
  | [] => (none, [])
  | c :: cs =>
    if c.id = id then
      let (answer, c) := change c
      (some answer, c :: cs)
    else
      let (answer, cs) := modifyFirst id change cs
      (answer, c :: cs)

/-- The form with the first component of an id changed, and what the change answers. -/
def modify {α : Type} (f : Form) (id : String) (change : Component → α × Component) :
    Option α × Form :=
  let (answer, components) := modifyFirst id change f.components
  (answer, { f with components })

/-- The components with their inputs taken from pairs of names and values. A value is given away
once, to the first component of its name. -/
def distribute (pairs : List (String × String)) : List Component → List Component
  | [] => []
  | c :: cs =>
    c.setInput (UrlEncoded.valueOf? pairs c.id)
      :: distribute (without c.id pairs) cs

/-- The form after a body was submitted, and whether all components are valid. -/
def submit (f : Form) (body : String) : Bool × Form :=
  let results := (distribute (UrlEncoded.decode body) f.components).map Component.validate
  (results.all (·.1), { f with components := results.map (·.2) })

/-- The errors with the ids of their components, in order. -/
def errors (f : Form) : List (String × String) :=
  f.components.flatMap fun c => c.errors.map fun e => (c.id, e)

end Form

end WebMount
