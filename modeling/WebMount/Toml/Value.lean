import WebMount.Number.Binary

/-!
# Values of a TOML document

What a key of a TOML document stands for. A table remembers how it came to be, because that
decides what later lines may add to it; a reader of the finished document need not care.
-/

namespace WebMount.Toml

/-- How a table came to be. -/
inductive Origin where
  /-- It was passed through on the way to a table of a heading. -/
  | implied
  /-- It was passed through by a key of several parts. -/
  | dotted
  /-- It has a heading of its own, or is the document itself. -/
  | heading
  /-- It was written between braces. -/
  | inline
  deriving DecidableEq, Repr

/-- A value of a TOML document. -/
inductive Value where
  | string (text : String)
  | integer (n : Int)
  | float (x : Number.Binary)
  | boolean (b : Bool)
  /-- A date, a time or both, in its written form. -/
  | moment (text : String)
  | array (items : List Value)
  /-- The tables of a repeated heading, the newest first. -/
  | series (tables : List (List (String × Value)))
  | table (origin : Origin) (entries : List (String × Value))
  deriving Inhabited, Repr

/-- The entries of a table. -/
abbrev Entries := List (String × Value)

namespace Value

/-- The name of the entry under which a date or time gives its written form when it is looked at
as a table. -/
def momentKey : String := "$__toml_private_datetime"

/-- The elements of an array or of a repeated heading. -/
def items? : Value → Option (List Value)
  | array items => some items
  | series tables => some (tables.reverse.map (table .heading))
  | _ => none

/-- The entries of a table. A date or time is looked at as a table of one entry. -/
def entries? : Value → Option Entries
  | table _ entries => some entries
  | moment text => some [(momentKey, string text)]
  | _ => none

end Value

end WebMount.Toml
