/-!
# Text inside markup and scripts

Text is put into markup with the five characters that mean something there replaced by entities,
and into a quoted script literal with the characters that could end the literal, the line or the
script element replaced by escapes.
-/

namespace WebMount.Markup

/-- A character inside the content or a quoted attribute of an element. -/
def escapeChar : Char → List Char
  | '&' => ['&', 'a', 'm', 'p', ';']
  | '<' => ['&', 'l', 't', ';']
  | '>' => ['&', 'g', 't', ';']
  | '"' => ['&', 'q', 'u', 'o', 't', ';']
  | '\'' => ['&', '#', '3', '9', ';']
  | c => [c]

/-- Text inside the content or a quoted attribute of an element. -/
def escape (text : String) : String :=
  String.ofList (text.toList.flatMap escapeChar)

/-- A character inside a script literal between single quotes. -/
def escapeScriptChar : Char → List Char
  | '\\' => ['\\', '\\']
  | '\'' => ['\\', '\'']
  | '\n' => ['\\', 'n']
  | '\r' => ['\\', 'r']
  | '<' => ['\\', 'x', '3', 'C']
  | c => [c]

/-- Text inside a script literal between single quotes. -/
def escapeScript (text : String) : String :=
  String.ofList (text.toList.flatMap escapeScriptChar)

end WebMount.Markup
