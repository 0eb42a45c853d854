import WebMount.Form.Value
import WebMount.Text.LowerCase

/-!
# Conversion of input

The input of a field is cut at the separators of its type, from the outermost dimension inwards,
and each part is converted to the element kind. Blanks around the input and around every part
are disregarded, and a blank input to an array is the array without elements. The first part
that cannot be converted decides.
-/

namespace WebMount.Form

open WebMount.Number WebMount.Text

/-- The truth value that a word stands for, in any mixture of cases. -/
def parseBool? (input : List Char) : Option Bool :=
  let word := String.ofList (toLowerAscii input)
  if word ∈ ["true", "on", "yes", "1"] then some true
  else if word ∈ ["false", "off", "no", "0"] then some false
  else none

/-- The number of a kind that digits stand for. Numbers without negatives take no minus sign. -/
def IntKind.parse? (kind : IntKind) (input : List Char) : Option Int :=
  let number := if kind.signed then parseInt? input else (parsePositive? input).map Int.ofNat
  number.filter fun n => decide (kind.range.1 ≤ n ∧ n ≤ kind.range.2)

/-- The value of a kind that an input stands for. -/
def Kind.parse? : Kind → List Char → Option Value
  | text, input => some (.text (String.ofList input))
  | bool, input => (parseBool? input).map .bool
  | char, [c] => some (.char c)
  | char, _ => none
  | int kind, input => (kind.parse? input).map (.int kind)
  | float kind, input => (Binary.ofText? kind.format input).map (.float kind)

/-- The value of a kind that an input stands for, blanks around it disregarded. -/
def Kind.convert (kind : Kind) (input : List Char) : Except ConversionError Value :=
  let input := trim input
  match kind.parse? input with
  | some value => .ok value
  | none => .error (.invalid (String.ofList input) kind.name)

/-- The array of the results, or the first error among them. -/
def collect : List (Except ConversionError Value) → Except ConversionError (List Value)
  | [] => .ok []
  | .error e :: _ => .error e
  | .ok value :: rest =>
    match collect rest with
    | .ok values => .ok (value :: values)
    | .error e => .error e

/-- The value that an input stands for in a number of dimensions. -/
def convertIn (kind : Kind) : (dimensions : Nat) → List Char → Except ConversionError Value
  | 0, input => kind.convert input
  | inner + 1, input =>
    let input := trim input
    if input = [] then .ok (.array [])
    else
      match collect ((splitAll (separator inner) input).map (convertIn kind inner)) with
      | .ok values => .ok (.array values)
      | .error e => .error e

/-- The value of a type that an input stands for. -/
def FieldType.convert (t : FieldType) (input : String) : Except ConversionError Value :=
  if maxDimensions < t.dimensions then .error (.tooManyDimensions t.dimensions)
  else convertIn t.kind t.dimensions input.toList

end WebMount.Form
