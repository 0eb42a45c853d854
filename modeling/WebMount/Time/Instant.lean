/-!
# Instants and durations

An instant is a count of nanoseconds from the beginning of 1970, possibly negative; a duration
is a count of nanoseconds. Dates show whole seconds, so an instant has a second it lies in.
-/

namespace WebMount.Time

/-- The number of nanoseconds of a second. -/
def nanosPerSecond : Nat := 1000000000

/-- The number of nanoseconds of a millisecond. -/
def nanosPerMilli : Nat := 1000000

/-- A point in time, in nanoseconds from 1970-01-01T00:00Z. -/
structure Instant where
  nanos : Int
  deriving DecidableEq, Repr, Inhabited

/-- A length of time in nanoseconds. -/
structure Duration where
  nanos : Nat
  deriving DecidableEq, Repr, Inhabited

namespace Instant

/-- The beginning of 1970. -/
def epoch : Instant := ⟨0⟩

/-- The instant a count of seconds after the epoch. -/
def ofSeconds (n : Int) : Instant := ⟨n * nanosPerSecond⟩

/-- The instant a count of milliseconds after the epoch. -/
def ofMillis (n : Int) : Instant := ⟨n * nanosPerMilli⟩

/-- The whole second that the instant lies in, counted from the epoch. -/
def seconds (t : Instant) : Int := t.nanos / nanosPerSecond

/-- The whole millisecond that the instant lies in, counted from the epoch. -/
def millis (t : Instant) : Int := t.nanos / nanosPerMilli

/-- The instant without the part below a second. An instant before the epoch is left as it is. -/
def truncate (t : Instant) : Instant :=
  if 0 ≤ t.nanos then ofSeconds t.seconds else t

/-- The instant a duration later. -/
def after (t : Instant) (d : Duration) : Instant := ⟨t.nanos + d.nanos⟩

@[simp] theorem seconds_ofSeconds (n : Int) : (ofSeconds n).seconds = n := by
  simp [seconds, ofSeconds, nanosPerSecond]

theorem truncate_of_nonneg {t : Instant} (h : 0 ≤ t.nanos) : t.truncate = ofSeconds t.seconds :=
  if_pos h

end Instant

namespace Duration

/-- A count of whole seconds. -/
def ofSeconds (n : Nat) : Duration := ⟨n * nanosPerSecond⟩

/-- A count of whole milliseconds. -/
def ofMillis (n : Nat) : Duration := ⟨n * nanosPerMilli⟩

/-- The whole milliseconds of the duration. -/
def millis (d : Duration) : Nat := d.nanos / nanosPerMilli

/-- The shorter of two durations. -/
def atMost (d limit : Duration) : Duration := ⟨min d.nanos limit.nanos⟩

/-- The number of seconds from which on binary fractions of 53 digits are more than two nanoseconds
apart: two to the power of 24. -/
def coarseSeconds : Nat := 16777216

/-- The nearest count of whole seconds of a duration below twice `coarseSeconds`; a half is rounded
up. The seconds are a binary fraction of 53 digits before they are rounded, so from
`coarseSeconds` on the last nanosecond before a half counts as the half. -/
def roundedSeconds (d : Duration) : Nat :=
  let whole := d.nanos / nanosPerSecond
  let part := d.nanos % nanosPerSecond
  let half := if coarseSeconds ≤ whole then 499999999 else 500000000
  if half ≤ part then whole + 1 else whole

end Duration

end WebMount.Time
