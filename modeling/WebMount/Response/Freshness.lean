import WebMount.Number.Decimal
import WebMount.Response.Caching
import WebMount.Text.Slice

/-!
# What a response tells caches

A cache goes by the date of a response, the date at which it expires, and directives. A directive
is a name, behind which an argument may stand after an equals sign. Old caches look at one more
field in place of the directives.
-/

namespace WebMount.Response

open WebMount.Text WebMount.Time

/-- A directive: its name, and its argument if it has one. -/
def directive (text : List Char) : String × Option String :=
  match splitFirst? '=' (trim text) with
  | some (name, argument) => (String.ofList name, some (String.ofList argument))
  | none => (String.ofList (trim text), none)

/-- What the fields of a response tell caches. -/
structure CacheTerms where
  date : Instant
  expires : Instant
  directives : List (String × Option String)
  /-- What old caches look at. -/
  pragma : Option String
  deriving DecidableEq, Repr

namespace CacheTerms

/-- The terms in the fields of a response, if there are dates and directives among them. -/
def ofHeaders? (h : Headers) : Option CacheTerms := do
  let date ← HttpDate.parse? (← h.get? "date")
  let expires ← HttpDate.parse? (← h.get? "expires")
  let control ← h.get? "cache-control"
  return ⟨date, expires, (splitAll ',' control.toList).map directive, h.get? "pragma"⟩

/-- The number of seconds for which a response may be kept. -/
def maxAge? (t : CacheTerms) : Option Nat := do
  let argument ← t.directives.lookup "max-age"
  Number.parseNat? (← argument).toList

end CacheTerms

end WebMount.Response
