import WebMount.Text.Slice
import WebMount.Xml.Entity

/-!
# Attributes of an element

What a reader of markup sees in an attribute: the text between the quotes behind the first
occurrence of its name, with references replaced.
-/

namespace WebMount.Markup

open WebMount.Text

/-- What follows the first occurrence of `part` in a text. -/
def behind? (part : List Char) : List Char → Option (List Char)
  | [] => if part = [] then some [] else none
  | c :: s =>
    match dropStart? part (c :: s) with
    | some rest => some rest
    | none => behind? part s

/-- The value of the attribute of a name that is written first in the markup. -/
def attribute? (name markup : String) : Option String := do
  let rest ← behind? (' ' :: name.toList ++ ['=', '"']) markup.toList
  let (value, _) ← splitFirst? '"' rest
  let text ← Xml.unescape? value
  return String.ofList text

end WebMount.Markup
