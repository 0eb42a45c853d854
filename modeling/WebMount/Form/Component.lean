import WebMount.Form.Convert
import WebMount.Form.Validator

/-!
# Components of a form

A component keeps the input of one field, the value it was converted to, and the errors about
it. Validation starts with no errors: a required field must have input, input must convert, and
then the validators are asked in order.
-/

namespace WebMount.Form

/-- One field of a form. -/
structure Component where
  id : String
  /-- The label given to the field itself. -/
  ownLabel : Option String := none
  /-- The label that the texts of the form give to the field. -/
  formLabel : Option String := none
  type : FieldType := .standard
  required : Bool := false
  input : Option String := none
  converted : Option Value := none
  validators : List Validator := []
  errors : List String := []

namespace Component

/-- The label from the texts of the form, or else the id. -/
def defaultLabel (c : Component) : String :=
  c.formLabel.getD c.id

/-- The label given to the field itself, or else the default label. -/
def label (c : Component) : String :=
  c.ownLabel.getD c.defaultLabel

/-- The input, if there is more to it than blanks. -/
def filledInput? (c : Component) : Option String :=
  c.input.filter fun s => !Text.isAllBlank s

/-- Whether no error is known. -/
def valid (c : Component) : Bool :=
  c.errors.isEmpty

/-- The component with another input, not converted yet. -/
def setInput (c : Component) (input : Option String) : Component :=
  { c with input, converted := none }

/-- The component after conversion of its input, and whether that succeeds. Blank input converts
to no value. An error is added to those known. -/
def convertInput (c : Component) : Bool × Component :=
  match c.filledInput? with
  | none => (true, { c with converted := none })
  | some input =>
    match c.type.convert input with
    | .ok value => (true, { c with converted := some value })
    | .error e => (false, { c with converted := none, errors := c.errors ++ [e.message] })

/-- The error of a required field without input. -/
def requiredError (c : Component) : String :=
  s!"'{c.label}' is required"

/-- The component after validation, and whether it is valid. A required field that is blank keeps
the value it was converted to last. -/
def validate (c : Component) : Bool × Component :=
  let c := { c with errors := [] }
  if c.required ∧ c.filledInput? = none then (false, { c with errors := [c.requiredError] })
  else
    match c.convertInput with
    | (false, c) => (false, c)
    | (true, c) =>
      let c := { c with errors := Validator.collect c.label c.converted [] c.validators }
      (c.valid, c)

end Component

end WebMount.Form
