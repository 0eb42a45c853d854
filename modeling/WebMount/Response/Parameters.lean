import WebMount.Text.Percent
import WebMount.Text.Reader

/-!
# Field values with parameters

The value of a field such as the content disposition is a word and parameters behind it. A
parameter stands behind a semicolon, and its value is a token or stands between quotes, where a
backslash takes the character behind it as it is. A client takes the file name from the parameter
that gives its UTF-8 bytes, if there is one.
-/

namespace WebMount

open WebMount.Text WebMount.Text.Reader

/-- A word, and the names and the values of the parameters behind it. -/
structure ParameterizedValue where
  word : List Char
  parameters : List (List Char × List Char)
  deriving DecidableEq, Repr

namespace ParameterizedValue

/-- A character of a token. -/
def isTokenChar (c : Char) : Bool :=
  c.isAlphanum || "!#$%&'*+-.^_`|~".toList.contains c

/-- A token. -/
def token : Reader (List Char) :=
  many1 isTokenChar

/-- A space or a tab. -/
def isSpace (c : Char) : Bool :=
  c == ' ' || c == '\t'

/-- A character that can stand between quotes: no control character but the tab. -/
def isQuotable (c : Char) : Bool :=
  c == '\t' || (decide (32 ≤ c.toNat) && decide (c.toNat ≠ 127))

/-- A character between quotes that stands for itself. -/
def isPlainQuoted (c : Char) : Bool :=
  isQuotable c && c != '"' && c != '\\'

/-- A character between quotes, by itself or behind a backslash. -/
def quotedChar : Reader Char :=
  satisfy isPlainQuoted <|> (char '\\' *> satisfy isQuotable)

/-- A text between quotes. -/
def quoted : Reader (List Char) := do
  char '"'
  let text ← repeated quotedChar
  char '"'
  return text

/-- A parameter: its name and its value. -/
def parameter : Reader (List Char × List Char) := do
  let _ ← many isSpace
  char ';'
  let _ ← many isSpace
  let name ← token
  char '='
  let value ← quoted <|> token
  return (name, value)

/-- A word and parameters. -/
def reader : Reader ParameterizedValue := do
  let word ← token
  let parameters ← repeated parameter
  return ⟨word, parameters⟩

/-- The word and the parameters that a field value is made of. -/
def read? (value : String) : Option ParameterizedValue :=
  reader.whole value.toList

/-- A character that stands for itself in a value that gives the bytes of a text. -/
def isAttributeChar (c : Char) : Bool :=
  c.isAlphanum || "!#$&+-.^_`|~".toList.contains c

/-- The text that a value gives the UTF-8 bytes of. -/
def extendedText? (value : List Char) : Option String := do
  let encoded ← dropStart? "UTF-8''".toList value
  let text ← Utf8.decode? (Percent.decode (Utf8.encode encoded))
  return String.ofList text

/-- The file name that a client takes from the parameters. -/
def fileName? (v : ParameterizedValue) : Option String :=
  match v.parameters.lookup "filename*".toList with
  | some value => extendedText? value
  | none => (v.parameters.lookup "filename".toList).map String.ofList

end ParameterizedValue

end WebMount
