import WebMount.Number.Binary
import WebMount.Number.Radix
import WebMount.Text.Reader
import WebMount.Toml.Value

/-!
# Numbers in a document

Whole numbers in decimal, hexadecimal, octal and binary, and floating-point numbers. Single
underscores may stand between digits, decimals have no needless zeros in front, and whole numbers
have to fit in 64 bits with a sign.
-/

namespace WebMount.Toml

open WebMount.Text

/-- Digits of a radix, between which single underscores may stand. -/
def digits (radix : Nat) : Reader (List Char) := do
  let first ← Reader.satisfy (Number.isDigit radix)
  let more ← Reader.repeated do
    discard (Reader.optional (Reader.char '_'))
    Reader.satisfy (Number.isDigit radix)
  return first :: more

/-- A sign, if there is one. -/
def sign : Reader (List Char) := do
  let c ← Reader.optional (Reader.satisfy fun c => c == '+' || c == '-')
  return c.toList

/-- Decimal digits without needless zeros in front. -/
def wholePart : Reader (List Char) := do
  let s ← digits 10
  if s.head? = some '0' ∧ s.length ≠ 1 then failure else return s

/-- A point and the digits behind it. -/
def fractionPart : Reader (List Char) := do
  Reader.char '.'
  return '.' :: (← digits 10)

/-- The exponent of a floating-point number. -/
def exponentPart : Reader (List Char) := do
  let c ← Reader.satisfy fun c => c == 'e' || c == 'E'
  return c :: (← sign) ++ (← digits 10)

/-- A word for a floating-point number that has no digits. -/
def floatWord : Reader (List Char) :=
  (Reader.literal ['i', 'n', 'f'] *> pure ['i', 'n', 'f'])
    <|> (Reader.literal ['n', 'a', 'n'] *> pure ['n', 'a', 'n'])

/-- The digits of a floating-point number, which have a fraction or an exponent. -/
def floatDigits : Reader (List Char) := do
  let whole ← wholePart
  let fraction ← Reader.optional fractionPart
  let exponent ← Reader.optional exponentPart
  if fraction.isNone ∧ exponent.isNone then failure
  else return whole ++ fraction.getD [] ++ exponent.getD []

/-- A floating-point number. Digits above the greatest number are refused; below the least one
they denote minus infinity. -/
def float : Reader Number.Binary := do
  let s ← sign
  let written ← (Sum.inl <$> floatDigits) <|> (Sum.inr <$> floatWord)
  match written with
  | .inl digits =>
    match Number.Binary.ofText? Number.binary64 (s ++ digits) with
    | some x => if x = .infinite false then failure else return x
    | none => failure
  | .inr word =>
    match Number.Binary.ofText? Number.binary64 (s ++ word) with
    | some x => return x
    | none => failure

/-- The mark of a radix other than ten, and the radix. -/
def radixMarks : List (List Char × Nat) :=
  [(['0', 'x'], 16), (['0', 'o'], 8), (['0', 'b'], 2)]

/-- The value of digits. -/
def valueOf (radix : Nat) (s : List Char) : Reader Int :=
  match Number.parseRadix? radix s with
  | some n => pure n
  | none => failure

/-- A whole number of any size. -/
def anyInteger : Reader Int := do
  let mark ← Reader.optional (Reader.oneOf (radixMarks.map (·.1)))
  match mark with
  | some i =>
    let radix := (radixMarks.map (·.2)).getD i 10
    valueOf radix (← digits radix)
  | none =>
    let s ← sign
    let n ← valueOf 10 (← wholePart)
    return if s = ['-'] then -n else n

/-- The least whole number. -/
def minInteger : Int := -9223372036854775808

/-- The greatest whole number. -/
def maxInteger : Int := 9223372036854775807

/-- A whole number. -/
def integer : Reader Int := do
  let n ← anyInteger
  if minInteger ≤ n ∧ n ≤ maxInteger then return n else failure

/-- A number. -/
def number : Reader Value :=
  (Value.float <$> float) <|> (Value.integer <$> integer)

/-- A truth value. -/
def boolean : Reader Value :=
  (Reader.literal ['t', 'r', 'u', 'e'] *> pure (.boolean true))
    <|> (Reader.literal ['f', 'a', 'l', 's', 'e'] *> pure (.boolean false))

end WebMount.Toml
