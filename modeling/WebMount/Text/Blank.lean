/-!
# Blank characters

The characters with the Unicode property `White_Space`, and the text without the blank
characters at its two ends. Every character that `Char.isWhitespace` accepts is blank.
-/

namespace WebMount.Text

/-- The blank characters as ranges of code points, both ends included. -/
def blankRanges : List (Nat × Nat) :=
  [(0x09, 0x0D), (0x20, 0x20), (0x85, 0x85), (0xA0, 0xA0), (0x1680, 0x1680), (0x2000, 0x200A),
   (0x2028, 0x2029), (0x202F, 0x202F), (0x205F, 0x205F), (0x3000, 0x3000)]

/-- A character with the Unicode property `White_Space`. -/
def isBlank (c : Char) : Bool :=
  blankRanges.any fun r => decide (r.1 ≤ c.toNat ∧ c.toNat ≤ r.2)

/-- The list without the elements at its two ends that satisfy `p`. -/
def strip {α : Type} (p : α → Bool) (l : List α) : List α :=
  ((l.dropWhile p).reverse.dropWhile p).reverse

/-- The text without the blank characters at its two ends. -/
def trim (s : List Char) : List Char :=
  strip isBlank s

/-- A text of blank characters only. -/
def isAllBlank (s : String) : Bool :=
  s.toList.all isBlank

end WebMount.Text
