import WebMount.Number.Decimal
import WebMount.Text.Reader
import WebMount.Time.Calendar

/-!
# Dates and times in a document

A date, a time of day, or both with or without an offset from universal time. The written form is
kept in one spelling: a capital `T` between date and time, a capital `Z` for no offset, and a
fraction of a second with up to nine places and no needless zeros.
-/

namespace WebMount.Toml

open WebMount.Text WebMount.Number

/-- A number of exactly `count` decimal digits between two limits. -/
def numberBetween (count least greatest : Nat) : Reader Nat := do
  let digits ← (List.replicate count ()).mapM fun _ => Reader.satisfy Char.isDigit
  match parseNat? digits with
  | some n => if least ≤ n ∧ n ≤ greatest then return n else failure
  | none => failure

/-- A date such as `1979-05-27`. -/
def date : Reader (List Char) := do
  let year ← numberBetween 4 0 9999
  Reader.char '-'
  let month ← numberBetween 2 1 12
  Reader.char '-'
  let day ← numberBetween 2 1 31
  if day ≤ (Time.monthLengths year).getD (month - 1) 0 then
    return renderPadded 4 year ++ ['-'] ++ renderPadded 2 month ++ ['-'] ++ renderPadded 2 day
  else failure

/-- The places of a fraction of a second that are kept. -/
def fractionPlaces : Nat := 9

/-- A fraction of a second. A fraction of zero is not written. -/
def secondFraction : Reader (List Char) := do
  Reader.char '.'
  let digits ← Reader.many1 Char.isDigit
  let kept := ((digits.take fractionPlaces).reverse.dropWhile (· == '0')).reverse
  return if kept = [] then [] else '.' :: kept

/-- A time of day such as `07:32:00.5`. A minute may have a leap second. -/
def timeOfDay : Reader (List Char) := do
  let hour ← numberBetween 2 0 23
  Reader.char ':'
  let minute ← numberBetween 2 0 59
  Reader.char ':'
  let second ← numberBetween 2 0 60
  let fraction ← Reader.optional secondFraction
  return renderPadded 2 hour ++ [':'] ++ renderPadded 2 minute ++ [':'] ++ renderPadded 2 second
    ++ fraction.getD []

/-- An offset from universal time. An offset of nothing is written with a plus sign. -/
def offset : Reader (List Char) :=
  (Reader.satisfy (fun c => c == 'Z' || c == 'z') *> pure ['Z']) <|> do
    let sign ← Reader.satisfy fun c => c == '+' || c == '-'
    let hour ← numberBetween 2 0 23
    Reader.char ':'
    let minute ← numberBetween 2 0 59
    let sign := if hour = 0 ∧ minute = 0 then '+' else sign
    return sign :: renderPadded 2 hour ++ [':'] ++ renderPadded 2 minute

/-- What stands between a date and a time. -/
def isDateTimeMark (c : Char) : Bool :=
  c == 'T' || c == 't' || c == ' '

/-- The time that follows a date. -/
def timeAfterDate : Reader (List Char) := do
  discard (Reader.satisfy isDateTimeMark)
  let time ← timeOfDay
  return 'T' :: time ++ (← Reader.optional offset).getD []

/-- A date and possibly a time. -/
def dateTime : Reader (List Char) := do
  let day ← date
  return day ++ (← Reader.optional timeAfterDate).getD []

/-- A date, a time or both. -/
def moment : Reader String :=
  String.ofList <$> (dateTime <|> timeOfDay)

end WebMount.Toml
