import WebMount.Text.Percent
import WebMount.Text.Slice

/-!
# Name and value pairs of queries and form bodies

The format `application/x-www-form-urlencoded`. Pairs are joined by `&`, and name and value by
`=`; a space is written `+`, and other bytes than letters, digits, `*`, `-`, `.` and `_` are
percent-encoded. Reading takes any text: empty pieces are skipped, a piece without `=` is a name
with an empty value, and bytes that are not UTF-8 become U+FFFD.
-/

namespace WebMount.UrlEncoded

/-- A byte that stands for itself in a written name or value. -/
def isPlain (b : UInt8) : Bool :=
  Percent.isAlphanumeric b || b == 42 || b == 45 || b == 46 || b == 95

/-- A name or a value as it is written. -/
def encodePart (text : String) : List Char :=
  (Utf8.ofString text).flatMap fun b => if b = 32 then ['+'] else Percent.encode isPlain [b]

/-- The written form of pairs. -/
def encode (pairs : List (String × String)) : String :=
  String.ofList <| ['&'].intercalate <| pairs.map fun (name, value) =>
    encodePart name ++ '=' :: encodePart value

/-- The text of a written name or value. -/
def decodePart (part : Bytes) : String :=
  let spaced := part.map fun b => if b = 43 then 32 else b
  String.ofList (Utf8.decodeLossy (Percent.decode spaced))

/-- The pair that one piece between ampersands stands for. -/
def decodePiece (piece : Bytes) : String × String :=
  match Text.splitFirst? 61 piece with
  | some (name, value) => (decodePart name, decodePart value)
  | none => (decodePart piece, "")

/-- The pairs of a query or form body, in order. -/
def decode (body : String) : List (String × String) :=
  ((Text.splitAll 38 (Utf8.ofString body)).filter (· ≠ [])).map decodePiece

/-- The value of the first pair with the given name. -/
def valueOf? (pairs : List (String × String)) (name : String) : Option String :=
  pairs.lookup name

end WebMount.UrlEncoded
