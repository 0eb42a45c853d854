import WebMount.Number.Decimal
import WebMount.Number.Radix
import WebMount.Text.Utf8

/-!
# References in character data

A reference stands between `&` and `;` and names one of five characters or gives the number of
a character, in decimal or, behind an `x`, in hexadecimal. A `&` that no `;` follows before the
next `&`, an unknown name and a number of no character are errors; a `;` alone is text.
-/

namespace WebMount.Xml

/-- The character of a number, if there is one other than NUL. -/
def charOfNumber? (n : Nat) : Option Char :=
  if n ≠ 0 ∧ n.isValidChar then some (Char.ofNat n) else none

/-- The character that the text of a reference denotes. -/
def referenced? (name : List Char) : Option Char :=
  match name with
  | '#' :: 'x' :: digits => (Number.parseRadix? 16 digits).bind charOfNumber?
  | '#' :: digits => (Number.parseNat? digits).bind charOfNumber?
  | ['l', 't'] => some '<'
  | ['g', 't'] => some '>'
  | ['a', 'm', 'p'] => some '&'
  | ['a', 'p', 'o', 's'] => some '\''
  | ['q', 'u', 'o', 't'] => some '"'
  | _ => none

/-- The text with its references replaced. `opened` holds the unfinished reference, latest
character first. -/
def unescapeFrom? (opened : Option (List Char)) : List Char → Option (List Char)
  | [] => if opened.isSome then none else some []
  | c :: s =>
    match opened with
    | none =>
      if c = '&' then unescapeFrom? (some []) s else (unescapeFrom? none s).map (c :: ·)
    | some name =>
      if c = '&' then none
      else if c = ';' then do
        let d ← referenced? name.reverse
        let rest ← unescapeFrom? none s
        return d :: rest
      else unescapeFrom? (some (c :: name)) s

/-- The text with its references replaced, or nothing if one of them is in error. -/
def unescape? (s : List Char) : Option (List Char) :=
  unescapeFrom? none s

/-- The text that is written as character data, if its bytes can be decoded and its references are
not in error. -/
def charactersOf? (content : Bytes) : Option (List Char) :=
  (Utf8.decode? content).bind unescape?

end WebMount.Xml
