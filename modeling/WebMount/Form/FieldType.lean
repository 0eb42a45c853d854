import WebMount.Text.Blank
import WebMount.Text.Slice

/-!
# Types of form fields

The type that the input of a field is converted to: an element kind, and the number of array
dimensions around it. A type is written as the name of the kind and a pair of brackets for each
dimension; `string` is read as well as `String`.
-/

namespace WebMount.Form

open WebMount.Text

/-- The whole numbers that a field can hold, by sign and width. -/
inductive IntKind where
  | int32
  | int64
  | uint32
  | uint64
  deriving DecidableEq, Repr

/-- The widths of floating-point numbers. -/
inductive FloatKind where
  | float32
  | float64
  deriving DecidableEq, Repr

/-- The kinds of elements. -/
inductive Kind where
  | text
  | bool
  | char
  | int (kind : IntKind)
  | float (kind : FloatKind)
  deriving DecidableEq, Repr

namespace Kind

/-- The name of a kind. -/
def name : Kind → String
  | text => "String"
  | bool => "bool"
  | char => "char"
  | int .int32 => "i32"
  | int .int64 => "i64"
  | int .uint32 => "u32"
  | int .uint64 => "u64"
  | float .float32 => "f32"
  | float .float64 => "f64"

/-- All kinds. -/
def all : List Kind :=
  [text, bool, char, int .int32, int .int64, int .uint32, int .uint64, float .float32,
   float .float64]

/-- The kind of a name. -/
def ofName? (name : String) : Option Kind :=
  if name = "string" then some text else all.find? fun k => k.name == name

theorem ofName?_name (k : Kind) : ofName? k.name = some k := by
  cases k with
  | int kind => cases kind <;> decide
  | float kind => cases kind <;> decide
  | _ => decide

end Kind

/-- The least and the greatest number of a kind. -/
def IntKind.range : IntKind → Int × Int
  | int32 => (-2147483648, 2147483647)
  | int64 => (-9223372036854775808, 9223372036854775807)
  | uint32 => (0, 4294967295)
  | uint64 => (0, 18446744073709551615)

/-- Whether a kind has negative numbers. -/
def IntKind.signed : IntKind → Bool
  | int32 | int64 => true
  | uint32 | uint64 => false

/-- The type of a field. -/
structure FieldType where
  kind : Kind
  dimensions : Nat
  deriving DecidableEq, Repr

/-- Why an input or the name of a type is refused. -/
inductive ConversionError where
  /-- The input denotes no value of the type. -/
  | invalid (input typeName : String)
  /-- The type has more dimensions than there are separators. -/
  | tooManyDimensions (dimensions : Nat)
  /-- There is no kind of the name. -/
  | unknownType (name : String)
  deriving DecidableEq, Repr

/-- The wording of a refusal. -/
def ConversionError.message : ConversionError → String
  | invalid input typeName => s!"'{input}' is not a valid {typeName}"
  | tooManyDimensions dimensions => s!"arrays of {dimensions} dimensions are not supported"
  | unknownType name => s!"unknown type '{name}'"

namespace FieldType

/-- The type of a field that is given none. -/
def standard : FieldType := ⟨.text, 0⟩

/-- The written form of a type. -/
def render (t : FieldType) : String :=
  String.ofList (t.kind.name.toList ++ (List.replicate t.dimensions ['[', ']']).flatten)

/-- The number of pairs of brackets at the front of a reversed text, and what follows them. -/
def takeBrackets : List Char → Nat × List Char
  | ']' :: '[' :: s =>
    let (n, rest) := takeBrackets s
    (n + 1, rest)
  | s => (0, s)

/-- The type that a text is the written form of, blanks around it disregarded. -/
def parse (text : String) : Except ConversionError FieldType :=
  let (dimensions, stem) := takeBrackets (trim text.toList).reverse
  let name := String.ofList stem.reverse
  match Kind.ofName? name with
  | some kind => .ok ⟨kind, dimensions⟩
  | none => .error (.unknownType name)

end FieldType

end WebMount.Form
