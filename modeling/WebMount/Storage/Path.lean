import WebMount.Text.Slice

/-!
# Paths of files

A path is a text of components between slashes. Empty components and components `.` say
nothing, so they are looked through; the file name is the last component that says something,
and its extension is what follows its last dot, unless the name has no other dot than a first
character.
-/

namespace WebMount.Path

open WebMount.Text

/-- The longest component, in bytes. -/
def maxComponent : Nat := 255

/-- The longest path, in bytes. -/
def maxLength : Nat := 4095

/-- The pieces of a path between slashes. -/
def pieces (path : String) : List String :=
  (splitAll '/' path.toList).map String.ofList

/-- The last component of a path that names something. -/
def fileName? (path : String) : Option String :=
  match ((pieces path).filter fun p => p ≠ "" ∧ p ≠ ".").getLast? with
  | some ".." => none
  | last => last

/-- The extension of a file name, given as characters: what follows the last dot. -/
def extensionOf? (name : List Char) : Option (List Char) :=
  match splitFirst? '.' name.reverse with
  | some (_, []) => none
  | some (tail, _) => some tail.reverse
  | none => none

/-- The extension of the file that a path names. -/
def extension? (path : String) : Option String := do
  let name ← fileName? path
  let tail ← extensionOf? name.toList
  return String.ofList tail

end WebMount.Path
