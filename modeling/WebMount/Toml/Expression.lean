import WebMount.Toml.Moment
import WebMount.Toml.Number
import WebMount.Toml.Table
import WebMount.Toml.Text

/-!
# Keys and values

A key is a list of parts with points between them. A value is a text, a number, a truth value, a
date or time, an array of values or a table between braces; arrays and tables hold values in
turn, to a limited depth, which is what the reading of values recurs on.
-/

namespace WebMount.Toml

open WebMount.Text

/-- The number below which the parts of a key and the depth of a value stay. -/
def depthLimit : Nat := 80

/-- A character that can stand in a part of a key without quotes. -/
def isKeyChar (c : Char) : Bool :=
  c.isAlphanum || c == '-' || c == '_'

/-- A part of a key, with the spaces around it. -/
def keyPart : Reader String := do
  spaces
  let part ← (String.ofList <$> Reader.many1 isKeyChar) <|> shortText
  spaces
  return part

/-- A key as its parts before the last, and the last. -/
def key : Reader (List String × String) := do
  let parts ← Reader.separated (Reader.char '.') keyPart
  if parts.length < depthLimit then return (parts.dropLast, parts.getLastD "") else failure

/-- A key and its value. -/
def keyValue (value : Reader Value) : Reader (List String × String × Value) := do
  let (path, last) ← key
  Reader.char '='
  spaces
  return (path, last, ← value)

/-- The values between the brackets of an array. A comma may follow the last one. -/
def arrayItems (value : Reader Value) : Reader (List Value) := do
  gap
  let items ← Reader.optional (Reader.separated (Reader.char ',') (gap *> value <* gap))
  match items with
  | none => return []
  | some items =>
    discard (Reader.optional (Reader.char ',' *> gap))
    return items

/-- The keys and values between the braces of a table, on one line. -/
def inlinePairs (value : Reader Value) : Reader (List (List String × String × Value)) := do
  let pairs ← Reader.optional (Reader.separated (Reader.char ',') (keyValue value <* spaces))
  spaces
  return pairs.getD []

/-- A value that holds no other values. -/
def scalar : Reader Value :=
  (Value.string <$> text) <|> (Value.moment <$> moment) <|> number <|> boolean

/-- An array of values. -/
def array (value : Reader Value) : Reader Value := do
  Reader.char '['
  let items ← arrayItems value
  Reader.char ']'
  return .array items

/-- A table between braces. -/
def table (value : Reader Value) : Reader Value := do
  Reader.char '\x7b'
  let pairs ← inlinePairs value
  Reader.char '\x7d'
  match inlineTable? pairs with
  | some t => return t
  | none => failure

/-- A value that holds other values to a depth below `depth`. -/
def valueWithin : (depth : Nat) → Reader Value
  | 0 => scalar
  | depth + 1 => scalar <|> array (valueWithin depth) <|> table (valueWithin depth)

/-- A value. -/
def value : Reader Value :=
  valueWithin (depthLimit - 1)

end WebMount.Toml
