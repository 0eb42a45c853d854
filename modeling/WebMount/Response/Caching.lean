import WebMount.Response.Op
import WebMount.Time.HttpDate

/-!
# Caching headers

A response may be kept by caches for a lifetime, which is cut to 365 days, or may not be kept at
all. Both are said in four fields: the date of the response, the date at which it expires, and
two directives. A date that cannot be written is a defect that stops the program.
-/

namespace WebMount

open WebMount.Time

/-- Which caches may keep a response. -/
inductive CacheScope where
  /-- Only the cache of the client itself. -/
  | personal
  /-- Caches that several clients share as well. -/
  | common
  deriving DecidableEq, Repr

/-- The word for a scope in a directive. -/
def CacheScope.word : CacheScope → String
  | personal => "private"
  | common => "public"

/-- The longest lifetime in a cache. -/
def maxLifetime : Duration := .ofSeconds (365 * 24 * 60 * 60)

/-- A defect that stops the program that answers a request. -/
inductive Crash where
  /-- A date header was asked for an instant that dates cannot show. -/
  | unwritableDate (instant : Instant)
  /-- The generator of an image stopped. -/
  | generator
  deriving DecidableEq, Repr

namespace Response

/-- The operation that sets a field to the date of an instant. -/
def dateHeader (name : String) (t : Instant) : Except Crash Op :=
  match HttpDate.format? t with
  | some date => .ok (.header name date)
  | none => .error (.unwritableDate t)

/-- The operations that let caches keep a response for a lifetime. -/
def enableCaching (lifetime : Duration) (scope : CacheScope) (now : Instant) :
    Except Crash (List Op) := do
  let lifetime := lifetime.atMost maxLifetime
  let date ← dateHeader "date" now
  let expires ← dateHeader "expires" (now.after lifetime)
  let control := s!"{scope.word}, max-age={lifetime.roundedSeconds}"
  return [date, expires, .header "cache-control" control, .header "pragma" "cache"]

/-- The operations that keep a response out of all caches. -/
def disableCaching (now : Instant) : Except Crash (List Op) := do
  let date ← dateHeader "date" now
  let expires ← dateHeader "expires" .epoch
  return [date, expires, .header "pragma" "no-cache",
    .header "cache-control" "no-cache, no-store"]

end Response

end WebMount
