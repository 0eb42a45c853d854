import WebMount.Text.LowerCase
import WebMount.Text.PrintableTable

/-!
# Texts quoted for a reader of messages

A text between double quotes, in which quotes, backslashes, line ends and everything without a
picture of its own are written as escapes, and a list of such texts between brackets.
-/

namespace WebMount.Text

/-- A character as it is written between quotes. -/
def quotedChar (c : Char) : List Char :=
  match c with
  | '\x00' => ['\\', '0']
  | '\t' => ['\\', 't']
  | '\r' => ['\\', 'r']
  | '\n' => ['\\', 'n']
  | '"' => ['\\', '"']
  | '\\' => ['\\', '\\']
  | c =>
    if inRanges c.toNat unprintableRanges then
      ['\\', 'u', '\x7b'] ++ Nat.toDigits 16 c.toNat ++ ['\x7d']
    else [c]

/-- A text between double quotes. -/
def quoted (s : List Char) : List Char :=
  '"' :: s.flatMap quotedChar ++ ['"']

/-- A list of quoted texts between brackets, such as `["a", "b"]`. -/
def quotedList (texts : List (List Char)) : List Char :=
  '[' :: [',', ' '].intercalate (texts.map quoted) ++ [']']

end WebMount.Text
