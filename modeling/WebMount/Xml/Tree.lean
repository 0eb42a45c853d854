import WebMount.Xml.Event

/-!
# Trees of a markup document

A document as it is written: texts, elements, and markup beside them that says nothing to a reader
of elements and texts. A forest is a list of such pieces, each with those that follow it. It can be
written as bytes (`Forest.render`), and it has events (`Forest.events`), which are those of its
bytes if it is well formed.
-/

namespace WebMount.Xml

open WebMount.Text

/-- Markup that is neither a tag nor text, with what stands between its marks. -/
inductive Aside where
  | comment (body : Bytes)
  /-- A section of character data. -/
  | characterData (body : Bytes)
  | instruction (body : Bytes)
  | doctype (body : Bytes)
  deriving DecidableEq, Repr

namespace Aside

/-- The markup behind its `<`, and without its `>`. -/
def content : Aside → Bytes
  | comment body => [bangMark, dash, dash] ++ body ++ [dash, dash]
  | characterData body => Utf8.ofString "![CDATA[" ++ body ++ [rightBracket, rightBracket]
  | instruction body => questionMark :: body ++ [questionMark]
  | doctype body => Utf8.ofString "!DOCTYPE" ++ body

/-- The angle brackets within the bytes are in pairs, `depth` of which were opened before. -/
def isBalanced (depth : Nat) : Bytes → Bool
  | [] => depth == 0
  | b :: bytes =>
    if b = less then isBalanced (depth + 1) bytes
    else if b = greater then
      match depth with
      | 0 => false
      | depth + 1 => isBalanced depth bytes
    else isBalanced depth bytes

/-- The markup does not end before its end, and a document type has a name. -/
def isWellFormed : Aside → Bool
  | comment body => !occursIn [dash, dash, greater] body
  | characterData body => !occursIn [rightBracket, rightBracket, greater] body
  | instruction body => !occursIn [questionMark, greater] (questionMark :: body)
  | doctype body => isBalanced 0 body && body.any fun b => !isSpace b

/-- Whether the markup is a section of character data. -/
def isCharacterData : Aside → Bool
  | characterData _ => true
  | _ => false

end Aside

/-- The pieces of a document, or of an element, in the order in which they are written. -/
inductive Forest where
  | nil
  | text (content : Bytes) (next : Forest)
  | aside (markup : Aside) (next : Forest)
  /-- An element without an end tag, by what its tag holds in front of the slash. -/
  | empty (tag : Bytes) (next : Forest)
  /-- An element by what its start tag holds, the pieces inside it, and the spaces at the end of its
  end tag. -/
  | element (tag : Bytes) (children : Forest) (spaces : Bytes) (next : Forest)
  deriving DecidableEq, Repr

/-- Every quote of the bytes is closed, and no `>` stands outside quotes; `quote` is the mark of a
quote that was opened before. -/
def quotesClose (quote : Option UInt8) : Bytes → Bool
  | [] => quote.isNone
  | b :: bytes =>
    match quote with
    | some q => quotesClose (if b = q then none else some q) bytes
    | none =>
      b != greater && quotesClose (if b = doubleQuote ∨ b = singleQuote then some b else none) bytes

/-- What a tag holds is well formed: a name, behind which quotes are closed and no `>` stands
outside them. -/
def isTag (tag : Bytes) : Bool :=
  tagName tag != []
    && (tagName tag).all (fun b => b != greater && b != doubleQuote && b != singleQuote)
    && tag.head? != some slash && tag.head? != some bangMark && tag.head? != some questionMark
    && quotesClose none tag

namespace Forest

/-- The bytes of a forest. -/
def render : Forest → Bytes
  | nil => []
  | text content next => content ++ next.render
  | aside markup next => less :: markup.content ++ greater :: next.render
  | empty tag next => less :: (tag ++ [slash]) ++ greater :: next.render
  | element tag children spaces next =>
    less :: tag ++ greater ::
      (children.render ++ less :: (slash :: tagName tag ++ spaces) ++ greater :: next.render)

/-- A text as it is read: without the spaces at its ends, and not at all if nothing else is left. -/
def readText (content : Bytes) : List Bytes :=
  let content := strip isSpace content
  if content = [] then [] else [content]

/-- The events of a forest. -/
def events : Forest → List Event
  | nil => []
  | text content next => (readText content).map .text ++ next.events
  | aside _ next => next.events
  | empty _ next => next.events
  | element tag children _ next =>
    .startTag (localName (tagName tag)) ::
      (children.events ++ .endTag (localName (tagName tag)) :: next.events)

/-- Whether a text comes first. -/
def beginsWithText : Forest → Bool
  | text _ _ => true
  | _ => false

/-- The forest is well formed: what is written is what is meant. A text has no `<` in it and ends
where markup begins. -/
def isWellFormed : Forest → Bool
  | nil => true
  | text content next => !content.contains less && !next.beginsWithText && next.isWellFormed
  | aside markup next => markup.isWellFormed && next.isWellFormed
  | empty tag next => isTag tag && next.isWellFormed
  | element tag children spaces next =>
    isTag tag && tag.getLast? != some slash && children.isWellFormed && spaces.all isSpace
      && next.isWellFormed

end Forest

/-- The document is a forest as it is written, behind a byte-order mark or not. -/
def Written (document : Bytes) (forest : Forest) : Prop :=
  document = byteOrderMark ++ forest.render ∨
    document = forest.render ∧ document.take 3 ≠ byteOrderMark

/-- The document is read as the forest: both have the same events. -/
def Reads (document : Bytes) (forest : Forest) : Prop :=
  Xml.events document = forest.events

/-- The forest is the tree of the document: it is well formed and the document is what is written
for it, or at least the document is read so. The latter is true of documents as well that are not
written in this way, such as one with unpaired brackets in its document type. -/
def HasTree (document : Bytes) (forest : Forest) : Prop :=
  forest.isWellFormed = true ∧ Written document forest ∨ Reads document forest

end WebMount.Xml
