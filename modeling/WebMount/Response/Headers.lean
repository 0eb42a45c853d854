import WebMount.Lookup
import WebMount.Text.LowerCase

/-!
# Header fields

Fields of a request or a response by name. Names are kept in lower case, so they are compared
without regard to case. Setting a field replaces what the name had before.
-/

namespace WebMount

/-- Header fields: pairs of a lower-case name and a value. -/
structure Headers where
  fields : List (String × String) := []
  deriving DecidableEq, Repr

namespace Headers

/-- A field name in lower case. -/
def canonicalName (name : String) : String :=
  String.ofList (Text.toLowerAscii name.toList)

/-- A text that can be the value of a field: no control character but the tab. -/
def isValue (value : String) : Bool :=
  value.toList.all fun c => c == '\t' || (decide (32 ≤ c.toNat) && decide (c.toNat ≠ 127))

/-- The tab and the printable characters of ASCII. -/
def isVisibleChar (c : Char) : Bool :=
  c == '\t' || (decide (32 ≤ c.toNat) && decide (c.toNat < 127))

/-- A value that can be read as text. -/
def isVisible (value : String) : Bool :=
  value.toList.all isVisibleChar

/-- The fields with the field of a name set. -/
def set (h : Headers) (name value : String) : Headers :=
  ⟨put (canonicalName name) value h.fields⟩

/-- The fields with the field of a name set, or left as they are if the text is no value. -/
def setText (h : Headers) (name value : String) : Headers :=
  if isValue value then h.set name value else h

/-- The fields with one more field, which does not replace another one of its name. -/
def add (h : Headers) (name value : String) : Headers :=
  ⟨h.fields ++ [(canonicalName name, value)]⟩

/-- The value of the first field of a name. -/
def get? (h : Headers) (name : String) : Option String :=
  h.fields.lookup (canonicalName name)

/-- The value of the first field of a name, if it can be read as text. -/
def text? (h : Headers) (name : String) : Option String :=
  (h.get? name).filter isVisible

theorem get?_set (h : Headers) (name other value : String) :
    (h.set name value).get? other =
      if canonicalName other = canonicalName name then some value else h.get? other :=
  lookup_put _ _ _ _

end Headers

end WebMount
