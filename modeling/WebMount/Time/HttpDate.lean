import WebMount.Number.Decimal
import WebMount.Text.Blank
import WebMount.Text.Reader
import WebMount.Time.Calendar
import WebMount.Time.Instant

/-!
# Dates in HTTP headers

A date header shows a whole second in the form `Sun, 06 Nov 1994 08:49:37 GMT`. Two older forms
are read as well: `Sunday, 06-Nov-94 08:49:37 GMT` and `Sun Nov  6 08:49:37 1994`. A date is read
only if the calendar has it and the day of the week is right. Instants before 1970 or after the
year 9999 cannot be written.
-/

namespace WebMount.Time.HttpDate

open WebMount.Text

/-- A date and time of day with the day of the week that stands before it. -/
structure Stamp where
  weekday : Nat
  date : Date
  hour : Nat
  minute : Nat
  second : Nat
  deriving DecidableEq, Repr

/-- The short names of the days of the week, from Sunday. -/
def dayNames : List (List Char) :=
  ["Sun", "Mon", "Tue", "Wed", "Thu", "Fri", "Sat"].map String.toList

/-- The long names of the days of the week, from Sunday. -/
def longDayNames : List (List Char) :=
  ["Sunday", "Monday", "Tuesday", "Wednesday", "Thursday", "Friday", "Saturday"].map String.toList

/-- The short names of the months, from January. -/
def monthNames : List (List Char) :=
  ["Jan", "Feb", "Mar", "Apr", "May", "Jun", "Jul", "Aug", "Sep", "Oct", "Nov", "Dec"].map
    String.toList

/-- The number of seconds of a day. -/
def secondsPerDay : Nat := 86400

/-- The date and time of a second counted from the epoch, if its year has four digits. -/
def Stamp.ofSeconds? (n : Nat) : Option Stamp :=
  let days := n / secondsPerDay
  let rest := n % secondsPerDay
  (Date.ofDays? days).map fun date =>
    ⟨Time.weekday days, date, rest / 3600, rest / 60 % 60, rest % 60⟩

/-- The second, counted from the epoch, of a date and time. -/
def Stamp.toSeconds (s : Stamp) : Nat :=
  s.date.toDays * secondsPerDay + s.hour * 3600 + s.minute * 60 + s.second

/-- A date and time that exists and whose day of the week is the right one. -/
def Stamp.valid (s : Stamp) : Bool :=
  decide (s.second < 60 ∧ s.minute < 60 ∧ s.hour < 24) && s.date.valid
    && decide (s.weekday = Time.weekday s.date.toDays)

/-- The written form of a date and time. -/
def Stamp.render (s : Stamp) : List Char :=
  dayNames.getD s.weekday [] ++ [',', ' '] ++ Number.renderPadded 2 s.date.day ++ [' ']
    ++ monthNames.getD (s.date.month - 1) [] ++ [' '] ++ Number.renderPadded 4 s.date.year ++ [' ']
    ++ Number.renderPadded 2 s.hour ++ [':'] ++ Number.renderPadded 2 s.minute ++ [':']
    ++ Number.renderPadded 2 s.second ++ [' ', 'G', 'M', 'T']

/-- The written form of the second that an instant lies in, if it can be written. -/
def format? (t : Instant) : Option String :=
  if 0 ≤ t.nanos then
    (Stamp.ofSeconds? t.seconds.toNat).map fun s => String.ofList s.render
  else none

/-- One decimal digit. -/
def digit : Reader Nat := do
  let c ← Reader.satisfy Char.isDigit
  return c.toNat - '0'.toNat

/-- Two decimal digits. -/
def twoDigits : Reader Nat := do
  return (← digit) * 10 + (← digit)

/-- Four decimal digits. -/
def fourDigits : Reader Nat := do
  return (← twoDigits) * 100 + (← twoDigits)

/-- A time of day such as `08:49:37`. -/
def timeOfDay : Reader (Nat × Nat × Nat) := do
  let hour ← twoDigits
  Reader.char ':'
  let minute ← twoDigits
  Reader.char ':'
  return (hour, minute, ← twoDigits)

/-- The form `Sun, 06 Nov 1994 08:49:37 GMT`. -/
def fixedForm : Reader Stamp := do
  let weekday ← Reader.oneOf dayNames
  Reader.literal [',', ' ']
  let day ← twoDigits
  Reader.char ' '
  let month ← Reader.oneOf monthNames
  Reader.char ' '
  let year ← fourDigits
  Reader.char ' '
  let (hour, minute, second) ← timeOfDay
  Reader.literal [' ', 'G', 'M', 'T']
  return ⟨weekday, ⟨year, month + 1, day⟩, hour, minute, second⟩

/-- The form `Sunday, 06-Nov-94 08:49:37 GMT`. Years below 70 are in the twenty-first century. Any
character may stand between the date and the time. -/
def longForm : Reader Stamp := do
  let weekday ← Reader.oneOf longDayNames
  Reader.literal [',', ' ']
  let day ← twoDigits
  Reader.char '-'
  let month ← Reader.oneOf monthNames
  Reader.char '-'
  let year ← twoDigits
  let _ ← Reader.satisfy fun _ => true
  let (hour, minute, second) ← timeOfDay
  Reader.literal [' ', 'G', 'M', 'T']
  let year := if year < 70 then 2000 + year else 1900 + year
  return ⟨weekday, ⟨year, month + 1, day⟩, hour, minute, second⟩

/-- The form `Sun Nov  6 08:49:37 1994`, in which a day below ten may stand behind a space. -/
def plainForm : Reader Stamp := do
  let weekday ← Reader.oneOf dayNames
  Reader.char ' '
  let month ← Reader.oneOf monthNames
  Reader.char ' '
  let day ← (Reader.char ' ' *> digit) <|> twoDigits
  Reader.char ' '
  let (hour, minute, second) ← timeOfDay
  Reader.char ' '
  let year ← fourDigits
  return ⟨weekday, ⟨year, month + 1, day⟩, hour, minute, second⟩

/-- The instant that a date header denotes, if it is well formed. Blank characters around the date
are ignored, and other than ASCII characters are refused. -/
def parse? (text : String) : Option Instant :=
  if text.toList.all fun c => decide (c.toNat < 128) then do
    let s := trim text.toList
    let stamp ← fixedForm.whole s <|> longForm.whole s <|> plainForm.whole s
    if stamp.valid then some (.ofSeconds stamp.toSeconds) else none
  else none

end WebMount.Time.HttpDate
