import WebMount.Mount.Declaration
import WebMount.Xml.Interruption

/-!
# Interruptions in a descriptor

The scan of a descriptor takes every piece of a name or a pattern for the whole of it. So it depends
on the pieces if it notices that a name or a pattern is interrupted.
-/

namespace WebMount.Mount.Descriptor

open WebMount.Xml WebMount.Text

/-- What a mapping says: names of filters and servlets, and patterns. -/
inductive Part where
  | name (kind : MappingKind)
  | pattern
  deriving DecidableEq, Repr

/-- The local name of the elements that say it. -/
def Part.tag : Part → Bytes
  | name kind => kind.nameTag
  | pattern => patternTag

/-- The scan does not notice the interruption of a part, wherever it stands: a descriptor with the
interruption has the filter paths of the descriptor without it, for every kind of mapping and every
name. -/
def IsHarmless (part : Part) (i : Interruption) : Prop :=
  ∀ (kind : MappingKind) (name : String) (document other : Bytes) (forest otherForest : Forest),
    HasTree document forest → HasTree other otherForest →
      Interrupted i part.tag none forest otherForest →
        filterPaths kind name other = filterPaths kind name document ∧
          filterPath kind name other = filterPath kind name document

/-- What is read of interrupted character data. -/
def pieces (i : Interruption) : List String :=
  readings i.before ++ readings i.after

/-- What is read of the pieces comes to what is read of the whole: for a name, the last piece is the
name, and for a pattern, the pieces add the same path as the pattern, or have the same fault. -/
def Keeps (i : Interruption) : Part → Prop
  | .name _ => (pieces i).getLast? = (readings i.whole).getLast?
  | .pattern => addPatterns [] (pieces i) = addPatterns [] (readings i.whole)

/-- The interruption stands in front of the character data or behind it, among spaces. -/
def AtEdge (i : Interruption) : Prop :=
  (∀ b ∈ i.lost, isSpace b = true) ∧
    ((∀ b ∈ i.before, isSpace b = true) ∨ ∀ b ∈ i.after, isSpace b = true)

/-- The interruption cuts text off: characters that are not blank are lost or stand on both
sides. -/
def CutsText (i : Interruption) : Prop :=
  (∃ c ∈ i.lostText, isBlank c = false) ∨
    (∃ c ∈ i.beforeText, isBlank c = false) ∧ ∃ c ∈ i.afterText, isBlank c = false

end WebMount.Mount.Descriptor
