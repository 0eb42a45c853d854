import WebMount.Form.Basic
import WebMount.Form.Operation

/-!
# A form in use

A form begins with an id and nothing else. Texts are set, components are added and used, and bodies
are submitted, in any order and any number. Whoever uses a component of a form can do everything to
it but one: the label that the texts give to it is given by the form alone. What counts of the texts
is the one that was set last for a key.
-/

namespace WebMount

open WebMount.Form

/-- Whether an operation on a component is left to the form that it is in. -/
def Form.Operation.isOfForm : Operation → Bool
  | formLabel _ => true
  | _ => false

namespace Form

/-- A form of an id. -/
def create (id : String) : Form :=
  { id }

/-- What can be done to a form. A component is used by its id, which means the first one of it. -/
inductive Step where
  | text (key text : String)
  /-- One more component, which may have been in another form before. -/
  | add (c : Component)
  | use (id : String) (operation : Operation) (h : operation.isOfForm = false)
  | submit (body : String)

namespace Step

/-- The component that a step adds. -/
def added? : Step → Option Component
  | add c => some c
  | _ => none

/-- The text that a step sets for a key. -/
def textFor? (key : String) : Step → Option String
  | text k t => if k = key then some t else none
  | _ => none

end Step

/-- The text that was set last for a key. -/
def lastText? (key : String) (steps : List Step) : Option String :=
  (steps.filterMap (Step.textFor? key)).getLast?

/-- The form after a step. -/
def step (f : Form) : Step → Form
  | .text key text => f.setText key text
  | .add c => f.add c
  | .use id operation _ => (f.modify id fun c => ((), c.perform operation)).2
  | .submit body => (f.submit body).2

/-- The form after steps, one after the other. -/
def after (f : Form) (steps : List Step) : Form :=
  steps.foldl step f

end Form

end WebMount
