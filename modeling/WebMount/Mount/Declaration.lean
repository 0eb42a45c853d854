import WebMount.Mount.Descriptor
import WebMount.Xml.Tree

/-!
# What a descriptor declares

The meaning of a deployment descriptor, told from its tree. A mapping is an element that holds
fields, each an element with a text; the name given last is the one that it maps, and it maps it to
all of its patterns. In a plain descriptor mappings hold nothing but such fields. In an orderly one
other things may stand beside the names and the patterns.
-/

namespace WebMount.Mount.Descriptor

open WebMount.Xml

/-- A field of a mapping: the local name of its element and its text, if there is one. -/
structure Field where
  tag : Bytes
  value : Option String
  deriving DecidableEq, Repr

/-- The texts that stand in a forest beside its elements, as they are read. -/
def texts : Forest → List Bytes
  | .nil => []
  | .text content next => Forest.readText content ++ texts next
  | .aside _ next => texts next
  | .empty _ next => texts next
  | .element _ _ _ next => texts next

/-- The fields of a mapping, in their order. -/
def fields : Forest → List Field
  | .nil => []
  | .text _ next => fields next
  | .aside _ next => fields next
  | .empty tag next => ⟨localName (tagName tag), none⟩ :: fields next
  | .element tag children _ next =>
    ⟨localName (tagName tag), (texts children).head?.bind textOf?⟩ :: fields next

/-- The texts of the fields with a local name, in their order. -/
def valuesOf (tag : Bytes) (mapping : List Field) : List String :=
  mapping.filterMap fun f => if f.tag = tag then f.value else none

/-- The mappings of a kind in a descriptor, in document order. -/
def mappings (kind : MappingKind) : Forest → List (List Field)
  | .nil => []
  | .text _ next => mappings kind next
  | .aside _ next => mappings kind next
  | .empty tag next =>
    (if localName (tagName tag) = kind.mappingTag then [[]] else []) ++ mappings kind next
  | .element tag children _ next =>
    (if localName (tagName tag) = kind.mappingTag then [fields children]
      else mappings kind children) ++ mappings kind next

/-- The patterns that a mapping gives to a name: all of its patterns, if it names it last. -/
def patternsFor (kind : MappingKind) (name : String) (mapping : List Field) : List String :=
  if (valuesOf kind.nameTag mapping).getLast? = some name then valuesOf patternTag mapping else []

/-- The patterns that a descriptor gives to a name, in document order. -/
def declared (kind : MappingKind) (name : String) (forest : Forest) : List String :=
  (mappings kind forest).flatMap (patternsFor kind name)

/-- The filter path of a pattern, if it stands for one. -/
def pathOf? (pattern : String) : Option String :=
  (ofUrlPattern pattern).toOption

/-- Nothing but texts, comments and instructions. -/
def isFlat : Forest → Bool
  | .nil => true
  | .text _ next => isFlat next
  | .aside markup next => !markup.isCharacterData && isFlat next
  | .empty _ _ => false
  | .element _ _ _ _ => false

/-- What a field holds: at most one text, which can be decoded. -/
def isField (children : Forest) : Bool :=
  isFlat children && decide ((texts children).length ≤ 1)
    && (texts children).all fun content => (textOf? content).isSome

/-- What a mapping of a kind holds: fields, none of which is such a mapping. -/
def isMapping (kind : MappingKind) : Forest → Bool
  | .nil => true
  | .text content next => (Forest.readText content).isEmpty && isMapping kind next
  | .aside markup next => !markup.isCharacterData && isMapping kind next
  | .empty tag next => localName (tagName tag) != kind.mappingTag && isMapping kind next
  | .element tag children _ next =>
    localName (tagName tag) != kind.mappingTag && isField children && isMapping kind next

/-- The mappings of a kind hold fields; everywhere else anything may stand. -/
def isPlain (kind : MappingKind) : Forest → Bool
  | .nil => true
  | .text _ next => isPlain kind next
  | .aside _ next => isPlain kind next
  | .empty _ next => isPlain kind next
  | .element tag children _ next =>
    (if localName (tagName tag) = kind.mappingTag then isMapping kind children
      else isPlain kind children) && isPlain kind next

/-- Everything that is read of a text can be decoded. -/
def isReadable (content : Bytes) : Bool :=
  (Forest.readText content).all fun content => (textOf? content).isSome

/-- Whether the scan for mappings of a kind looks for elements with the local name. -/
def isKnown (kind : MappingKind) (tag : Bytes) : Bool :=
  tag == kind.mappingTag || tag == kind.nameTag || tag == patternTag

/-- What other elements of a mapping hold: texts that can be decoded, and no elements that the scan
looks for. -/
def isForeign (kind : MappingKind) : Forest → Bool
  | .nil => true
  | .text content next => isReadable content && isForeign kind next
  | .aside _ next => isForeign kind next
  | .empty _ next => isForeign kind next
  | .element tag children _ next =>
    !isKnown kind (localName (tagName tag)) && isForeign kind children && isForeign kind next

/-- What an orderly mapping of a kind holds: names and patterns that are fields, and beside them
texts that can be decoded and other elements. -/
def isEntry (kind : MappingKind) : Forest → Bool
  | .nil => true
  | .text content next => isReadable content && isEntry kind next
  | .aside _ next => isEntry kind next
  | .empty _ next => isEntry kind next
  | .element tag children _ next =>
    localName (tagName tag) != kind.mappingTag
      && (if isKnown kind (localName (tagName tag)) then isField children
        else isForeign kind children)
      && isEntry kind next

/-- The mappings of a kind are orderly; everywhere else anything may stand. -/
def isOrderly (kind : MappingKind) : Forest → Bool
  | .nil => true
  | .text _ next => isOrderly kind next
  | .aside _ next => isOrderly kind next
  | .empty _ next => isOrderly kind next
  | .element tag children _ next =>
    (if localName (tagName tag) = kind.mappingTag then isEntry kind children
      else isOrderly kind children) && isOrderly kind next

/-- The character data that stands in a forest beside its elements, as it is written. -/
def characterData : Forest → Bytes
  | .nil => []
  | .text content next => content ++ characterData next
  | .aside _ next => characterData next
  | .empty _ next => characterData next
  | .element _ _ _ next => characterData next

/-- The patterns of a mapping, as they are written. -/
def writtenPatterns : Forest → List Bytes
  | .nil => []
  | .text _ next => writtenPatterns next
  | .aside _ next => writtenPatterns next
  | .empty tag next =>
    (if localName (tagName tag) = patternTag then [[]] else []) ++ writtenPatterns next
  | .element tag children _ next =>
    (if localName (tagName tag) = patternTag then [characterData children] else [])
      ++ writtenPatterns next

/-- The patterns that a descriptor gives to a name, in document order and as they are written. -/
def written (kind : MappingKind) (name : String) : Forest → List Bytes
  | .nil => []
  | .text _ next => written kind name next
  | .aside _ next => written kind name next
  | .empty _ next => written kind name next
  | .element tag children _ next =>
    (if localName (tagName tag) = kind.mappingTag then
      if (valuesOf kind.nameTag (fields children)).getLast? = some name then
        writtenPatterns children
      else []
    else written kind name children) ++ written kind name next

/-- What is read of character data: its text, unless nothing but spaces is written. -/
def readings (content : Bytes) : List String :=
  (Forest.readText content).filterMap textOf?

/-- The document is an orderly descriptor, and the only pattern that it gives to the name is the
text, in whatever way it is written. -/
def DeclaresOnly (kind : MappingKind) (name pattern : String) (document : Bytes) : Prop :=
  ∃ forest content, HasTree document forest ∧ isOrderly kind forest = true ∧
    written kind name forest = [content] ∧ charactersOf? content = some pattern.toList

/-- Two mappings say the same: they have the same fields, in whatever order and number, and the same
name is given last. -/
structure Agrees (kind : MappingKind) (mapping other : List Field) : Prop where
  mem_iff : ∀ f, f ∈ mapping ↔ f ∈ other
  name : (valuesOf kind.nameTag mapping).getLast? = (valuesOf kind.nameTag other).getLast?

end WebMount.Mount.Descriptor
