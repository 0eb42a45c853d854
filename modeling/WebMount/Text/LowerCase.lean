import WebMount.Text.CaseTable

/-!
# Lower case

Full Unicode lower-casing of a text, independent of language. All characters but two have a
lower-case form of one character that does not depend on its surroundings: `İ` becomes `i` with
a dot above, and `Σ` becomes `ς` at the end of a word and `σ` elsewhere. A word ends where a
cased character stands before and none after, case-ignorable characters being looked through.
-/

namespace WebMount.Text

/-- Whether `n` lies in one of the ranges, which are in order. -/
def inRanges (n : Nat) : List (Nat × Nat) → Bool
  | [] => false
  | (first, last) :: ranges => if n < first then false else n ≤ last || inRanges n ranges

/-- The code point that a run gives for `n`, if it covers `n`. -/
def CaseRun.image? (run : CaseRun) (n : Nat) : Option Nat :=
  if run.first ≤ n ∧ n ≤ run.last ∧ (n - run.first) % run.stride = 0 then
    some ((n : Int) + run.shift).toNat
  else none

/-- The lower-case form of a character, its surroundings disregarded. -/
def lowerChar (c : Char) : List Char :=
  if c = 'İ' then ['i', '\u0307']
  else
    match lowerCaseRuns.findSome? (·.image? c.toNat) with
    | some n => [Char.ofNat n]
    | none => [c]

/-- Whether the first character that is not case-ignorable is cased. -/
def meetsCased : List Char → Bool
  | [] => false
  | c :: s =>
    if inRanges c.toNat caseIgnorableRanges then meetsCased s else inRanges c.toNat casedRanges

/-- The lower-case form of a text that stands after `before`, given in reverse. -/
def lowerAfter (before : List Char) : List Char → List Char
  | [] => []
  | c :: s =>
    (if c = 'Σ' then [if meetsCased before && !meetsCased s then 'ς' else 'σ'] else lowerChar c)
      ++ lowerAfter (c :: before) s

/-- The lower-case form of a text. -/
def toLowerCase (s : List Char) : List Char :=
  lowerAfter [] s

/-- The text with the letters `A` to `Z` in lower case and all else as it is. -/
def toLowerAscii (s : List Char) : List Char :=
  s.map Char.toLower

end WebMount.Text
