import WebMount.Xml.Token
import WebMount.Text.Blank
import WebMount.Text.Slice

/-!
# Events of a markup document

The tokens of a document as start tags, end tags and texts. An end tag must bear the name of the
innermost open element; elements may be left open. Markup that is neither a tag nor text is
passed over if it is well formed. The list of events ends with `malformed` where the document
breaks these rules, and no event follows it.
-/

namespace WebMount.Xml

/-- What a document says, in order. -/
inductive Event where
  | startTag (name : Bytes)
  | endTag (name : Bytes)
  | text (content : Bytes)
  | malformed
  deriving DecidableEq, Repr

/-- The space characters of markup: space, tab, carriage return and line feed. -/
def isSpace (b : UInt8) : Bool :=
  b == 32 || b == 9 || b == 13 || b == 10

/-- The name at the front of a tag. -/
def tagName (content : Bytes) : Bytes :=
  content.takeWhile fun b => !isSpace b

/-- A name without the part up to its first colon. -/
def localName (name : Bytes) : Bytes :=
  match Text.splitFirst? 58 name with
  | some (_, tail) => tail
  | none => name

/-- The bytes without the space characters at their end. -/
def trimEnd (bytes : Bytes) : Bytes :=
  (bytes.reverse.dropWhile isSpace).reverse

/-- The name of an end tag, whose content begins with a slash. Spaces behind the name are not
part of it, unless there is nothing else. -/
def endName (content : Bytes) : Bytes :=
  let name := content.drop 1
  if name.all isSpace then name else trimEnd name

/-- The bytes of ASCII characters, letters in upper case. -/
def upperAscii (bytes : Bytes) : Bytes :=
  bytes.map fun b => if 97 ≤ b ∧ b ≤ 122 then b - 32 else b

/-- Markup behind `<!` that is well formed: a comment, a section of character data, or a document
type declaration with a name. -/
def bangValid (content : Bytes) : Bool :=
  content.take 3 == [bangMark, dash, dash]
    || content.take 8 == Utf8.ofString "![CDATA["
    || (upperAscii (content.take 8) == Utf8.ofString "!DOCTYPE"
      && (content.drop 8).any fun b => !isSpace b)

/-- The events of tokens inside open elements, the innermost first. -/
def eventsFrom (opened : List Bytes) : List Token → List Event
  | [] => []
  | .text content :: tokens =>
    let content := Text.strip isSpace content
    if content = [] then eventsFrom opened tokens
    else .text content :: eventsFrom opened tokens
  | .tag content :: tokens =>
    if content.head? = some slash then
      match opened with
      | name :: opened =>
        if endName content = name then .endTag (localName name) :: eventsFrom opened tokens
        else [.malformed]
      | [] => [.malformed]
    else if content.getLast? = some slash then eventsFrom opened tokens
    else
      let name := tagName content
      .startTag (localName name) :: eventsFrom (name :: opened) tokens
  | .instruction _ :: tokens => eventsFrom opened tokens
  | .bang content :: tokens => if bangValid content then eventsFrom opened tokens else [.malformed]
  | .unfinished :: _ => [.malformed]

/-- The events of a document. -/
def events (document : Bytes) : List Event :=
  eventsFrom [] (tokens document)

end WebMount.Xml
