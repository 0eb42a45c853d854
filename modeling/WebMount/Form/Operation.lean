import WebMount.Form.Component

/-!
# A component in use

A component begins with an id and nothing else: a text that may be left out. It is set up, given
inputs, converted and validated by operations, which may come in any order and any number.
-/

namespace WebMount.Form

/-- What can be done to a component. -/
inductive Operation where
  | type (type : FieldType)
  | label (label : String)
  /-- The label that the texts of a form give to the component, or that they give none. -/
  | formLabel (label : Option String)
  | required (required : Bool)
  /-- One more validator, behind those that are there. -/
  | validator (v : Validator)
  | input (input : Option String)
  | convert
  | validate

/-- The validator that an operation adds. -/
def Operation.validator? : Operation → Option Validator
  | validator v => some v
  | _ => none

namespace Component

/-- A component of an id. -/
def create (id : String) : Component :=
  { id }

/-- The component after an operation. -/
def perform (c : Component) : Operation → Component
  | .type type => { c with type }
  | .label label => { c with ownLabel := some label }
  | .formLabel label => { c with formLabel := label }
  | .required required => { c with required }
  | .validator v => { c with validators := c.validators ++ [v] }
  | .input input => c.setInput input
  | .convert => c.convertInput.2
  | .validate => c.validate.2

/-- The component after operations, one after the other. -/
def run (c : Component) (operations : List Operation) : Component :=
  operations.foldl perform c

end Component

end WebMount.Form
