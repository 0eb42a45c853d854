import WebMount.Text.Slice
import WebMount.Text.Utf8

/-!
# Request targets as URIs

The path and the query of a URI. A URI is a path with a query, an authority alone, or a scheme,
an authority and possibly a path with a query; `*` is a path too. A fragment is dropped. The
characters that each part may hold are those of the URI grammar, with the exceptions that
clients are known to send.
-/

namespace WebMount.Uri

open WebMount.Text

/-- The part of a URI that a server looks at. -/
structure Target where
  path : String
  query : Option String
  deriving DecidableEq, Repr

/-- The greatest length of a URI in bytes. -/
def maxLength : Nat := 65534

/-- The greatest length of a scheme. -/
def maxScheme : Nat := 64

/-- The characters of a path that stand for themselves, and the quote and the braces, which some
clients send as they are. Characters beyond ASCII are let through. -/
def isPathChar (c : Char) : Bool :=
  let n := c.toNat
  n == 0x21 || n == 0x22 || (0x24 ≤ n && n ≤ 0x3B) || n == 0x3D || (0x40 ≤ n && n ≤ 0x5F)
    || (0x61 ≤ n && n ≤ 0x7E) || 0x80 ≤ n

/-- The characters of a query that stand for themselves. Characters beyond ASCII are let
through. -/
def isQueryChar (c : Char) : Bool :=
  let n := c.toNat
  n == 0x21 || (0x24 ≤ n && n ≤ 0x3B) || n == 0x3D || (0x3F ≤ n && n ≤ 0x7E) || 0x80 ≤ n

/-- The characters of an authority, the brackets of an address among them. -/
def isAuthorityChar (c : Char) : Bool :=
  c.isAlphanum || "!$&'()*+,-.:;=@[]_~".toList.contains c

/-- The characters of a scheme. -/
def isSchemeChar (c : Char) : Bool :=
  c.isAlphanum || c == '+' || c == '-' || c == '.' || c == '~'

/-- A path with a query and a fragment behind it. -/
def pathAndQuery? (s : List Char) : Option Target :=
  let (path, rest) := s.span fun c => c != '?' && c != '#'
  if path.all isPathChar then
    match rest with
    | '?' :: rest =>
      let query := rest.takeWhile (· != '#')
      if query.all isQueryChar then some ⟨String.ofList path, some (String.ofList query)⟩
      else none
    | _ => some ⟨String.ofList path, none⟩
  else none

/-- What has been seen of an authority: the colons since the last bracket or at-sign, the two
brackets, a percent sign in the host, and whether an at-sign was the last character. -/
structure AuthorityScan where
  colons : Nat := 0
  openBracket : Bool := false
  closeBracket : Bool := false
  percent : Bool := false
  endsWithAt : Bool := false

/-- One character of an authority. -/
def AuthorityScan.step (s : AuthorityScan) (c : Char) : Option AuthorityScan :=
  let s := { s with endsWithAt := false }
  if c = ':' then if 8 ≤ s.colons then none else some { s with colons := s.colons + 1 }
  else if c = '[' then
    if s.percent || s.openBracket then none else some { s with openBracket := true }
  else if c = ']' then
    if !s.openBracket || s.closeBracket then none
    else some { s with closeBracket := true, colons := 0, percent := false }
  else if c = '@' then some { s with colons := 0, percent := false, endsWithAt := true }
  else if c = '%' then some { s with percent := true }
  else if isAuthorityChar c then some s
  else none

/-- Whether a text can be an authority: balanced brackets, at most one colon in front of a port, a
host behind an at-sign, and percent signs only in the user part or between the brackets. -/
def isAuthority (s : List Char) : Bool :=
  match s.foldlM AuthorityScan.step {} with
  | some a => a.openBracket == a.closeBracket && a.colons ≤ 1 && !a.endsWithAt && !a.percent
  | none => false

/-- The scheme at the front of a URI, and what follows the `://` behind it. Nothing is found if
there is no scheme; a scheme that is too long is an error. -/
def takeScheme (s : List Char) : Option (Option (List Char)) :=
  let scheme := s.takeWhile isSchemeChar
  match dropStart? [':', '/', '/'] (s.dropWhile isSchemeChar) with
  | some rest => if maxScheme < scheme.length then none else some (some rest)
  | none => some none

/-- The path and the query of a URI. An absolute URI without a path has the path `/`. -/
def parse? (text : String) : Option Target :=
  let s := text.toList
  if s = [] ∨ maxLength < text.utf8ByteSize then none
  else if s = ['*'] then some ⟨"*", none⟩
  else if s.head? = some '/' then pathAndQuery? s
  else
    match takeScheme s with
    | none => none
    | some none => if isAuthority s then some ⟨"", none⟩ else none
    | some (some rest) =>
      let (authority, rest) := rest.span fun c => c != '/' && c != '?' && c != '#'
      if authority ≠ [] ∧ isAuthority authority then
        (pathAndQuery? rest).map fun t => if t.path = "" then { t with path := "/" } else t
      else none

end WebMount.Uri
