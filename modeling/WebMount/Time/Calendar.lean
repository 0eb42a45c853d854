/-!
# The calendar

Days counted from 1970-01-01 as dates of the Gregorian calendar, for the years with four digits.
Years and months are both blocks of consecutive days, so one function finds the block that a day
lies in, and counting the days before a block undoes it (`locate_eq_some`).
-/

namespace WebMount.Time

/-- A date of the calendar. Months and days of the month count from one. -/
structure Date where
  year : Nat
  month : Nat
  day : Nat
  deriving DecidableEq, Repr

/-- A year with 366 days. -/
def isLeapYear (year : Nat) : Bool :=
  year % 4 == 0 && (year % 100 != 0 || year % 400 == 0)

/-- The number of days of a year. -/
def yearLength (year : Nat) : Nat :=
  if isLeapYear year then 366 else 365

/-- The numbers of days of the months of a year. -/
def monthLengths (year : Nat) : List Nat :=
  [31, if isLeapYear year then 29 else 28, 31, 30, 31, 30, 31, 31, 30, 31, 30, 31]

/-- The first year of the calendar. -/
def firstYear : Nat := 1970

/-- The last year of the calendar. -/
def lastYear : Nat := 9999

/-- The numbers of days of the years of the calendar. -/
def yearLengths : List Nat :=
  (List.range' firstYear (lastYear + 1 - firstYear)).map yearLength

/-- The block that contains the `n`-th unit, counted from zero, among consecutive blocks of the
given lengths, and the number of the unit in it. -/
def locate : List Nat → Nat → Option (Nat × Nat)
  | [], _ => none
  | length :: lengths, n =>
    if n < length then some (0, n)
    else (locate lengths (n - length)).map fun (i, r) => (i + 1, r)

/-- The units before a block. -/
def unitsBefore : (lengths : List Nat) → (i : Nat) → Nat
  | length :: lengths, i + 1 => length + unitsBefore lengths i
  | _, _ => 0

/-- The date of the `n`-th day from 1970-01-01, counted from zero, if its year has four digits. -/
def Date.ofDays? (n : Nat) : Option Date := do
  let (year, n) ← locate yearLengths n
  let (month, n) ← locate (monthLengths (firstYear + year)) n
  return ⟨firstYear + year, month + 1, n + 1⟩

/-- The number of days from 1970-01-01 to the date. -/
def Date.toDays (date : Date) : Nat :=
  unitsBefore yearLengths (date.year - firstYear)
    + unitsBefore (monthLengths date.year) (date.month - 1) + (date.day - 1)

/-- A date that the calendar has. -/
def Date.valid (date : Date) : Bool :=
  decide (firstYear ≤ date.year ∧ date.year ≤ lastYear ∧ 1 ≤ date.month ∧ 1 ≤ date.day)
    && decide (date.day ≤ ((monthLengths date.year)[date.month - 1]?).getD 0)

/-- The day of the week of the `n`-th day from 1970-01-01, a Thursday; Sunday is zero. -/
def weekday (n : Nat) : Nat :=
  (n + 4) % 7

theorem locate_eq_some {lengths : List Nat} {n i r : Nat} (h : locate lengths n = some (i, r)) :
    n = unitsBefore lengths i + r ∧ ∃ length, lengths[i]? = some length ∧ r < length := by
  induction lengths generalizing n i with
  | nil => simp [locate] at h
  | cons length lengths ih =>
    simp only [locate] at h
    split at h
    · next hn =>
      obtain ⟨rfl, rfl⟩ := Prod.mk.injEq .. ▸ Option.some.inj h
      exact ⟨by simp [unitsBefore], length, by simp, hn⟩
    · next hn =>
      obtain ⟨⟨j, s⟩, hjs, heq⟩ := Option.map_eq_some_iff.1 h
      obtain ⟨rfl, rfl⟩ := Prod.mk.injEq .. ▸ heq
      obtain ⟨hsum, len, hlen, hlt⟩ := ih hjs
      refine ⟨?_, len, by simpa using hlen, hlt⟩
      simp only [unitsBefore] at hsum ⊢
      omega

end WebMount.Time
