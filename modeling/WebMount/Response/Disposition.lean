import WebMount.Text.Percent

/-!
# Content disposition

How a client is to present a body, and under which file name. A file name is given between
quotes, with quotes and backslashes escaped and an underscore for every character that is not
printable ASCII. A name with other than ASCII characters is given a second time as its
percent-encoded UTF-8 bytes.
-/

namespace WebMount

/-- How a client is to present a body. -/
inductive Disposition where
  | inline
  | attachment
  deriving DecidableEq, Repr

namespace Disposition

/-- The word for the kind of presentation. -/
def word : Disposition → String
  | inline => "inline"
  | attachment => "attachment"

/-- A character of a file name between quotes. -/
def quotedChar (c : Char) : List Char :=
  if c = '"' ∨ c = '\\' then ['\\', c]
  else if 32 ≤ c.toNat ∧ c.toNat < 127 then [c]
  else ['_']

/-- The punctuation that stands for itself in the percent-encoded form of a file name. -/
def plainPunctuation : Bytes :=
  Utf8.ofString "!#$&+-.^_`|~"

/-- A byte that stands for itself in the percent-encoded form of a file name. -/
def isPlain (b : UInt8) : Bool :=
  Percent.isAlphanumeric b || plainPunctuation.contains b

/-- The header value for a kind of presentation, given by its word, and a file name. -/
def headerValue (word : String) (fileName : Option String) : String :=
  match fileName with
  | none | some "" => word
  | some name =>
    let quoted := name.toList.flatMap quotedChar
    let encoded :=
      if name.toList.all fun c => decide (c.toNat < 128) then []
      else "; filename*=UTF-8''".toList ++ Percent.encode isPlain (Utf8.ofString name)
    word ++ "; filename=\"" ++ String.ofList quoted ++ "\"" ++ String.ofList encoded

end Disposition

end WebMount
