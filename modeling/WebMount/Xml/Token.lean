import WebMount.Text.Utf8

/-!
# Tokens of a markup document

A document is cut into character data and pieces of markup, byte by byte. What ends a piece
depends on how it begins: a tag ends at the next `>` outside quotes, an instruction at `?>`, a
comment at `-->`, a section of character data at `]]>`, and a declaration at the `>` that
balances its `<`. The machine remembers the bytes of the unfinished piece, latest first.
-/

namespace WebMount.Xml

/-- A piece of a document, without the angle brackets around it. -/
inductive Token where
  /-- Bytes between pieces of markup. -/
  | text (content : Bytes)
  /-- A start, end or empty-element tag. -/
  | tag (content : Bytes)
  /-- An instruction, with the question marks at its ends. -/
  | instruction (content : Bytes)
  /-- Markup that begins with an exclamation mark, which is part of it. -/
  | bang (content : Bytes)
  /-- Markup that the document does not complete. -/
  | unfinished
  deriving DecidableEq, Repr

/-- How a piece of markup that begins with an exclamation mark ends. -/
inductive BangEnd where
  | comment
  | section
  | declaration (depth : Nat)
  deriving DecidableEq, Repr

/-- Where the machine is: what kind of piece it is in, and the bytes of it, latest first. -/
inductive Mode where
  | text (seen : Bytes)
  | opened
  | tag (quote : Option UInt8) (seen : Bytes)
  | instruction (seen : Bytes)
  | bangOpened
  | bang (ending : BangEnd) (seen : Bytes)
  | failed
  deriving DecidableEq, Repr

/-- The bytes with a meaning in markup. -/
def less : UInt8 := 60
def greater : UInt8 := 62
def slash : UInt8 := 47
def bangMark : UInt8 := 33
def questionMark : UInt8 := 63
def doubleQuote : UInt8 := 34
def singleQuote : UInt8 := 39
def dash : UInt8 := 45
def leftBracket : UInt8 := 91
def rightBracket : UInt8 := 93

/-- One byte of a tag: quotes open and close, and a `>` outside them ends the tag. -/
def stepTag (quote : Option UInt8) (seen : Bytes) (b : UInt8) : List Token × Mode :=
  match quote with
  | some q => ([], .tag (if b = q then none else some q) (b :: seen))
  | none =>
    if b = greater then ([.tag seen.reverse], .text [])
    else
      ([], .tag (if b = doubleQuote ∨ b = singleQuote then some b else none) (b :: seen))

/-- One byte of markup that begins with an exclamation mark. -/
def stepBang (ending : BangEnd) (seen : Bytes) (b : UInt8) : List Token × Mode :=
  match ending with
  | .comment =>
    if b = greater ∧ 4 < seen.length ∧ seen.take 2 = [dash, dash] then
      ([.bang seen.reverse], .text [])
    else ([], .bang .comment (b :: seen))
  | .section =>
    if b = greater ∧ seen.take 2 = [rightBracket, rightBracket] then
      ([.bang seen.reverse], .text [])
    else ([], .bang .section (b :: seen))
  | .declaration depth =>
    if b = less then ([], .bang (.declaration (depth + 1)) (b :: seen))
    else if b = greater then
      match depth with
      | 0 => ([.bang seen.reverse], .text [])
      | depth + 1 => ([], .bang (.declaration depth) (b :: seen))
    else ([], .bang (.declaration depth) (b :: seen))

/-- The byte behind `<!` tells how the piece ends; only four bytes can stand there. -/
def openBang (b : UInt8) : Mode :=
  if b = dash then .bang .comment [b, bangMark]
  else if b = leftBracket then .bang .section [b, bangMark]
  else if b = 68 ∨ b = 100 then .bang (.declaration 0) [b, bangMark]
  else .failed

/-- The tokens that a byte completes, and the mode after it. -/
def step (mode : Mode) (b : UInt8) : List Token × Mode :=
  match mode with
  | .text seen => if b = less then ([.text seen.reverse], .opened) else ([], .text (b :: seen))
  | .opened =>
    if b = bangMark then ([], .bangOpened)
    else if b = questionMark then ([], .instruction [b])
    else stepTag none [] b
  | .tag quote seen => stepTag quote seen b
  | .instruction seen =>
    if b = greater ∧ seen.head? = some questionMark then
      (if seen.length = 1 then ([], .failed) else ([.instruction seen.reverse], .text []))
    else ([], .instruction (b :: seen))
  | .bangOpened => ([], openBang b)
  | .bang ending seen => stepBang ending seen b
  | .failed => ([], .failed)

/-- The tokens of the bytes that follow in a mode. -/
def tokensFrom (mode : Mode) : Bytes → List Token
  | [] =>
    match mode with
    | .text seen => [.text seen.reverse]
    | _ => [.unfinished]
  | b :: bytes =>
    let (done, mode) := step mode b
    done ++ tokensFrom mode bytes

/-- The mark that may stand in front of a document to tell its encoding. -/
def byteOrderMark : Bytes := [0xEF, 0xBB, 0xBF]

/-- The tokens of a document. -/
def tokens (document : Bytes) : List Token :=
  tokensFrom (.text []) <|
    if document.take 3 = byteOrderMark then document.drop 3 else document

end WebMount.Xml
