import WebMount.Xml.Entity
import WebMount.Xml.Tree

/-!
# Interrupted character data

Character data may have a comment in it, and a part of it may be written as a section instead. To a
reader of the document that makes no difference: the comment stands for nothing, and the section
for the part that it replaces. Two forests are the same but for one interruption if it stands at
the same place in both (`Interrupted`).
-/

namespace WebMount.Xml

/-- A comment or a section in the middle of character data, in place of what is lost. No reference
is cut in two. -/
structure Interruption where
  before : Bytes
  lost : Bytes
  after : Bytes
  markup : Aside
  beforeText : List Char
  lostText : List Char
  afterText : List Char
  before_eq : charactersOf? before = some beforeText
  lost_eq : charactersOf? lost = some lostText
  after_eq : charactersOf? after = some afterText
  /-- A comment stands for nothing, and a section for its own text. -/
  markup_eq : match markup with
    | .comment _ => lost = []
    | .characterData body => Utf8.decode? body = some lostText
    | _ => False
  markup_isWellFormed : markup.isWellFormed = true
  less_not_mem : less ∉ before ++ lost ++ after

namespace Interruption

/-- The character data without the interruption. -/
def whole (i : Interruption) : Bytes :=
  i.before ++ i.lost ++ i.after

/-- What the character data stands for, with the interruption or without it. -/
def text (i : Interruption) : List Char :=
  i.beforeText ++ i.lostText ++ i.afterText

/-- The interrupted character data, in front of what follows it. -/
def cut (i : Interruption) (next : Forest) : Forest :=
  .text i.before (.aside i.markup (.text i.after next))

end Interruption

/-- The other forest is the same, but for an interruption of character data that stands in an
element with the local name. The forests are the inside of an element with the local name `parent`,
or documents. -/
inductive Interrupted (i : Interruption) (tag : Bytes) : Option Bytes → Forest → Forest → Prop
  | here (next : Forest) : Interrupted i tag (some tag) (.text i.whole next) (i.cut next)
  | text {parent : Option Bytes} {next other : Forest} (content : Bytes) :
    Interrupted i tag parent next other →
      Interrupted i tag parent (.text content next) (.text content other)
  | aside {parent : Option Bytes} {next other : Forest} (markup : Aside) :
    Interrupted i tag parent next other →
      Interrupted i tag parent (.aside markup next) (.aside markup other)
  | empty {parent : Option Bytes} {next other : Forest} (name : Bytes) :
    Interrupted i tag parent next other →
      Interrupted i tag parent (.empty name next) (.empty name other)
  | inside {parent : Option Bytes} {children other : Forest} (name spaces : Bytes) (next : Forest) :
    Interrupted i tag (some (localName (tagName name))) children other →
      Interrupted i tag parent (.element name children spaces next)
        (.element name other spaces next)
  | behind {parent : Option Bytes} {next other : Forest} (name : Bytes) (children : Forest)
    (spaces : Bytes) :
    Interrupted i tag parent next other →
      Interrupted i tag parent (.element name children spaces next)
        (.element name children spaces other)

end WebMount.Xml
