import WebMount.Number.Radix
import WebMount.Text.Reader

/-!
# Literals in a script

A text in a script stands between single quotes. A backslash begins an escape, of one letter or of
two hexadecimal digits; all other characters stand for themselves, but for the quote, which ends the
literal, and for the line feed and the carriage return, which cannot stand in one. The separators of
lines and of paragraphs stand for themselves as well.
-/

namespace WebMount.Markup

open WebMount.Text WebMount.Text.Reader

/-- A character between the quotes that stands for itself. -/
def isPlainInScript (c : Char) : Bool :=
  c != '\'' && c != '\\' && c != '\n' && c != '\r'

/-- The characters that single letters behind a backslash stand for. -/
def scriptEscapes : List (Char × Char) :=
  [('\'', '\''), ('"', '"'), ('\\', '\\'), ('b', '\x08'), ('f', '\x0c'), ('n', '\n'), ('r', '\r'),
    ('t', '\t'), ('v', '\x0b')]

/-- The character of two hexadecimal digits. -/
def hexPair : Reader Char := do
  let high ← satisfy (Number.isDigit 16)
  let low ← satisfy (Number.isDigit 16)
  match Number.parseRadix? 16 [high, low] with
  | some n => return Char.ofNat n
  | none => failure

/-- A backslash and what it says. -/
def scriptEscape : Reader Char := do
  char '\\'
  let c ← satisfy fun _ => true
  match scriptEscapes.lookup c with
  | some meant => return meant
  | none => if c = 'x' then hexPair else failure

/-- A character between the quotes, by itself or as an escape. -/
def scriptChar : Reader Char :=
  satisfy isPlainInScript <|> scriptEscape

/-- A literal with its quotes. -/
def scriptLiteral : Reader (List Char) := do
  char '\''
  let text ← repeated scriptChar
  char '\''
  return text

/-- The text that stands for `contents` between the quotes of a literal. -/
def unescapeScript? (contents : String) : Option String :=
  ((repeated scriptChar).whole contents.toList).map String.ofList

end WebMount.Markup
