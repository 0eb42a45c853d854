import WebMount.Toml.Expression

/-!
# Documents

A document is a list of lines. A line holds a heading, a repeated heading, a key with its value
or nothing, and may end with a comment. A heading says to which table the keys below it belong;
the keys above the first heading belong to the document.
-/

namespace WebMount.Toml

open WebMount.Text

/-- What a line says. -/
inductive Statement where
  | heading (path : List String) (key : String)
  | nextHeading (path : List String) (key : String)
  | pair (path : List String) (key : String) (value : Value)
  deriving Repr

/-- A heading for one more table of a series. -/
def nextHeading : Reader Statement := do
  Reader.literal ['[', '[']
  let (path, last) ← key
  Reader.literal [']', ']']
  return .nextHeading path last

/-- A heading for a table. -/
def heading : Reader Statement := do
  Reader.char '['
  let (path, last) ← key
  Reader.char ']'
  return .heading path last

/-- A key and its value. -/
def pair : Reader Statement := do
  let (path, last, v) ← keyValue value
  return .pair path last v

/-- A line without its end. -/
def line : Reader (Option Statement) := do
  spaces
  let statement ← Reader.optional (nextHeading <|> heading <|> pair)
  spaces
  discard (Reader.optional comment)
  return statement

/-- The statements of a document. -/
def statements : Reader (List Statement) := do
  let lines ← Reader.separated lineEnd line
  return lines.filterMap id

/-- A document of which some statements are read: its entries, and the keys that lead to the table
under the last heading. -/
structure Draft where
  entries : Entries := []
  here : List String := []
  deriving Repr

/-- The draft after a statement, if the statement can be added to it. -/
def Draft.add (d : Draft) : Statement → Option Draft
  | .heading path key =>
    (d.entries.changeAt .implied (fun _ => Entries.begin key) path .heading).map fun entries =>
      ⟨entries, path ++ [key]⟩
  | .nextHeading path key =>
    (d.entries.changeAt .implied (fun _ => Entries.beginNext key) path .heading).map fun entries =>
      ⟨entries, path ++ [key]⟩
  | .pair path key value =>
    (d.entries.changeAt .implied (Entries.give path key value) d.here .heading).map fun entries =>
      { d with entries }

/-- The table that a document denotes. A byte order mark at its front is skipped. -/
def parse? (document : String) : Option Value := do
  let s := document.toList
  let found ← statements.whole ((dropStart? ['\ufeff'] s).getD s)
  let draft ← found.foldlM Draft.add {}
  return .table .heading draft.entries

end WebMount.Toml
