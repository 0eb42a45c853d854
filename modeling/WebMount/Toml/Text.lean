import WebMount.Number.Radix
import WebMount.Toml.Spacing

/-!
# Texts in a document

A text stands between double quotes, with escapes, or between single quotes, just as it is. With
three quotes on each side it can hold line ends, which count as one line feed each, and up to two
quotes in a row; the line end that follows the opening quotes does not belong to it.
-/

namespace WebMount.Toml

open WebMount.Text

/-- The character with a code point, given by a number of hexadecimal digits. -/
def codePoint (count : Nat) : Reader Char := do
  let digits ← (List.replicate count ()).mapM fun _ => Reader.satisfy (Number.isDigit 16)
  match Number.parseRadix? 16 digits with
  | some n => if n.isValidChar then return Char.ofNat n else failure
  | none => failure

/-- The characters that single letters behind a backslash stand for. -/
def escapes : List (Char × Char) :=
  [('b', '\x08'), ('t', '\t'), ('n', '\n'), ('f', '\x0c'), ('r', '\r'), ('"', '"'), ('\\', '\\')]

/-- A backslash and what it says. -/
def escaped : Reader Char := do
  Reader.char '\\'
  let c ← Reader.satisfy fun _ => true
  match escapes.lookup c with
  | some meant => return meant
  | none =>
    if c = 'u' then codePoint 4
    else if c = 'U' then codePoint 8
    else failure

/-- Three quotes. -/
def fence (quote : Char) : Reader Unit :=
  Reader.literal [quote, quote, quote]

/-- One or two quotes inside a text with three quotes on each side. -/
def innerQuotes (quote : Char) : Reader (List Char) := do
  let quotes ← Reader.many (· == quote)
  if quotes.length = 1 ∨ quotes.length = 2 then return quotes else failure

/-- The quotes that close a text with three quotes on each side: the last three of them, and up to
two before them that belong to the text. -/
def closingQuotes (quote : Char) : Reader (List Char) := do
  let quotes ← Reader.many (· == quote)
  if 3 ≤ quotes.length ∧ quotes.length ≤ 5 then return quotes.drop 3 else failure

/-- A text with three quotes on each side, from the characters that stand for themselves or for
others in it. -/
def fenced (quote : Char) (piece : Reader (List Char)) : Reader (List Char) := do
  fence quote
  discard (Reader.optional lineEnd)
  let pieces ← Reader.repeated
    (piece <|> (lineEnd *> pure ['\n']) <|> innerQuotes quote)
  return pieces.flatten ++ (← closingQuotes quote)

/-- A text between double quotes. -/
def basicText : Reader (List Char) := do
  Reader.char '"'
  let s ← Reader.repeated
    (Reader.satisfy (fun c => isPlain c && c != '"' && c != '\\') <|> escaped)
  Reader.char '"'
  return s

/-- A text between single quotes. -/
def literalText : Reader (List Char) := do
  Reader.char '\''
  let s ← Reader.many fun c => isPlain c && c != '\''
  Reader.char '\''
  return s

/-- A backslash at the end of a line, which hides the line end and all space that follows it. -/
def hiddenLineEnd : Reader Unit := do
  Reader.char '\\'
  spaces
  lineEnd
  discard (Reader.repeated (discard (Reader.satisfy isSpace) <|> lineEnd))

/-- A text between three double quotes. -/
def basicLines : Reader (List Char) :=
  fenced '"' <|
    (([·]) <$> Reader.satisfy fun c => isPlain c && c != '"' && c != '\\')
      <|> (hiddenLineEnd *> pure [])
      <|> (([·]) <$> escaped)

/-- A text between three single quotes. -/
def literalLines : Reader (List Char) :=
  fenced '\'' (([·]) <$> Reader.satisfy fun c => isPlain c && c != '\'')

/-- A text on one line. -/
def shortText : Reader String :=
  String.ofList <$> (basicText <|> literalText)

/-- A text. -/
def text : Reader String :=
  String.ofList <$> (basicLines <|> literalLines) <|> shortText

end WebMount.Toml
