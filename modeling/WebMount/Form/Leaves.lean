import WebMount.Form.Convert

/-!
# The single values of an array

An array holds its single values at the bottom of its dimensions, and an input to it holds their
texts between the separators. Both are lists in the order of reading, which say nothing about the
conversion. Where an input may be padded with blanks without any harm is told by its margins: its
two ends and the sides of the separators that its type calls for.
-/

namespace WebMount.Form

open WebMount.Text

namespace Value

mutual

/-- The single values of a value, in the order of reading. -/
def leaves : Value → List Value
  | array elements => leavesAll elements
  | v => [v]

/-- The single values of all the values, in the order of reading. -/
def leavesAll : List Value → List Value
  | [] => []
  | v :: vs => leaves v ++ leavesAll vs

end

end Value

/-- The texts of the single values in an input to a number of dimensions, cut from the outermost
dimension inwards. A blank text in place of an array has none. -/
def leafTexts : (dimensions : Nat) → List Char → List (List Char)
  | 0, input => [input]
  | inner + 1, input =>
    if input.all isBlank then []
    else (splitAll (separator inner) input).flatMap (leafTexts inner)

/-- A place in an input between two parts of it, which is at an end of the input or beside a
separator of one of the dimensions. -/
def Margin (dimensions : Nat) (before after : List Char) : Prop :=
  before = [] ∨ after = [] ∨
    ∃ i < dimensions, separator i ∈ before.getLast? ∨ separator i ∈ after.head?

/-- The inputs differ in the blanks at their margins only: blanks were put there or taken away, one
at a time. -/
inductive Repadded (dimensions : Nat) : List Char → List Char → Prop where
  | pad {before after : List Char} {c : Char} :
      isBlank c = true → Margin dimensions before after →
        Repadded dimensions (before ++ after) (before ++ c :: after)
  | refl (input : List Char) : Repadded dimensions input input
  | symm {input other : List Char} : Repadded dimensions input other →
      Repadded dimensions other input
  | trans {input middle other : List Char} : Repadded dimensions input middle →
      Repadded dimensions middle other → Repadded dimensions input other

end WebMount.Form
