import WebMount.Form.FieldType
import WebMount.Number.Shortest

/-!
# Values of form fields

A field holds a single value or an array of values. A value is written as it could be typed
into the field: the elements of an array are put together with a separator that tells how deep
the array is, which is measured along the first elements.
-/

namespace WebMount.Form

open WebMount.Number

/-- A value of a field. -/
inductive Value where
  | text (value : String)
  | bool (value : Bool)
  | char (value : Char)
  | int (kind : IntKind) (value : Int)
  | float (kind : FloatKind) (value : Binary)
  | array (elements : List Value)
  deriving Repr

/-- The binary format of a width. -/
def FloatKind.format : FloatKind → BinaryFormat
  | float32 => binary32
  | float64 => binary64

/-- The separators of arrays, from the innermost dimension outwards. -/
def separators : List Char := [',', ';', '|']

/-- The greatest number of dimensions that input can have. -/
def maxDimensions : Nat := separators.length

/-- The separator of arrays around `inner` dimensions; the last one serves all further depths. -/
def separator (inner : Nat) : Char :=
  separators.getD (min inner (maxDimensions - 1)) '|'

namespace Value

/-- The number of array dimensions along the first elements. -/
def depth : Value → Nat
  | array [] => 1
  | array (first :: _) => 1 + first.depth
  | _ => 0

mutual

/-- The value as it could be typed into a field. -/
def renderChars : Value → List Char
  | text value => value.toList
  | bool value => if value then ['t', 'r', 'u', 'e'] else ['f', 'a', 'l', 's', 'e']
  | char value => [value]
  | int _ value => renderInt value
  | float kind value => value.render kind.format
  | array elements => [separator (depth (array elements) - 1)].intercalate (renderAll elements)

/-- Each of the values as it could be typed into a field. -/
def renderAll : List Value → List (List Char)
  | [] => []
  | value :: values => renderChars value :: renderAll values

end

/-- The value as it could be typed into a field. -/
def render (value : Value) : String :=
  String.ofList value.renderChars

/-- The text of a value that is one. -/
def text? : Value → Option String
  | text value => some value
  | _ => none

/-- The number of a value that is one, in the wide format; a whole number that the format cannot
hold is rounded. -/
def number? : Value → Option Binary
  | int _ value => some (Binary.ofInt binary64 value)
  | float .float32 value => some (value.convert binary64)
  | float .float64 value => some value
  | _ => none

/-- The elements of a value that is an array. -/
def elements? : Value → Option (List Value)
  | array elements => some elements
  | _ => none

end Value

end WebMount.Form
