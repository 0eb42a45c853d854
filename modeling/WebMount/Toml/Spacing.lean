import WebMount.Text.Reader

/-!
# Spaces, comments and line ends

What may stand between the parts of a document: spaces and tabs, comments up to the end of a
line, and line ends. Control characters other than the tab stand nowhere.
-/

namespace WebMount.Toml

open WebMount.Text

/-- A space or a tab. -/
def isSpace (c : Char) : Bool :=
  c == ' ' || c == '\t'

/-- A character that may stand in a comment or in a text. -/
def isPlain (c : Char) : Bool :=
  c == '\t' || (decide (32 ≤ c.toNat) && c.toNat != 127)

/-- Spaces and tabs. -/
def spaces : Reader Unit :=
  discard (Reader.many isSpace)

/-- The end of a line. -/
def lineEnd : Reader Unit :=
  Reader.char '\n' <|> Reader.literal ['\r', '\n']

/-- A comment, without the line end that follows it. -/
def comment : Reader Unit := do
  Reader.char '#'
  discard (Reader.many isPlain)

/-- Spaces, comments and line ends. -/
def gap : Reader Unit := do
  spaces
  discard (Reader.repeated ((discard (Reader.optional comment) *> lineEnd) *> spaces))

end WebMount.Toml
