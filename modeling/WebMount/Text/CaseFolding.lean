/-!
# Case folding

Texts are compared without regard to case by their foldings. A text of ASCII characters folds to
its lower case; beyond ASCII only the letters below fold to ASCII, some of them to more than one
letter. So the folding given here decides how a text compares with one of ASCII characters, which
is all that it is for.
-/

namespace WebMount.Text

/-- The characters beyond ASCII that fold to ASCII letters: the sharp and the long s, the Kelvin
sign and the Latin ligatures. -/
def asciiFoldings : List (Char × String) :=
  [('\u00DF', "ss"), ('\u017F', "s"), ('\u1E9E', "ss"), ('\u212A', "k"), ('\uFB00', "ff"),
   ('\uFB01', "fi"), ('\uFB02', "fl"), ('\uFB03', "ffi"), ('\uFB04', "ffl"), ('\uFB05', "st"),
   ('\uFB06', "st")]

/-- What a character folds to, if that is ASCII; other characters stand for themselves. -/
def foldChar (c : Char) : List Char :=
  match asciiFoldings.lookup c with
  | some letters => letters.toList
  | none => [c.toLower]

/-- The folding of a text, as far as it is ASCII. -/
def foldCase (s : List Char) : List Char :=
  s.flatMap foldChar

end WebMount.Text
