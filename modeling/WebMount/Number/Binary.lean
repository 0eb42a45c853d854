import WebMount.Number.Decimal

/-!
# Binary floating-point numbers

The numbers of a binary interchange format as exact integers: a sign, a significand and a power
of two, with the two infinities and one not-a-number. Rounding takes the nearest number of the
format and, of two equally near ones, the one with the even significand; what would need a
greater exponent than the format has becomes infinite. Reading and comparing are exact, so no
machine arithmetic is involved.
-/

namespace WebMount.Number

/-- A binary format: the bits of a significand, and the exponents of its last place in the
subnormal numbers and in the greatest numbers. -/
structure BinaryFormat where
  precision : Nat
  leastExponent : Int
  greatestExponent : Int
  deriving DecidableEq, Repr

/-- The format of 32 bits. -/
def binary32 : BinaryFormat := ⟨24, -149, 104⟩

/-- The format of 64 bits. -/
def binary64 : BinaryFormat := ⟨53, -1074, 971⟩

/-- A number of a binary format. The finite numbers are `significand * 2 ^ exponent`, negated if
`negative` says so; zero has a sign too. -/
inductive Binary where
  | nan
  | infinite (negative : Bool)
  | finite (negative : Bool) (significand : Nat) (exponent : Int)
  deriving DecidableEq, Repr

namespace Binary

/-- The natural number nearest to `num / den`, an even one if two are equally near. -/
def roundDiv (num den : Nat) : Nat :=
  let q := num / den
  let r := num % den
  if 2 * r < den then q
  else if den < 2 * r then q + 1
  else if q % 2 = 0 then q else q + 1

/-- The ratio `num / den` divided by `2 ^ e`, as a ratio again. -/
def scale (num den : Nat) (e : Int) : Nat × Nat :=
  (num * Nat.pow 2 (-e).toNat, den * Nat.pow 2 e.toNat)

/-- The exponent of the power of two next below or at `num / den`. -/
def floorLog2 (num den : Nat) : Int :=
  let e : Int := (Nat.log2 num : Int) - (Nat.log2 den : Int)
  let (n, d) := scale num den e
  if n < d then e - 1 else e

/-- The number of the format nearest to `num / den`, for a positive `den`. -/
def ofRatio (format : BinaryFormat) (negative : Bool) (num den : Nat) : Binary :=
  if num = 0 then .finite negative 0 format.leastExponent
  else
    let e := max format.leastExponent (floorLog2 num den - (format.precision - 1))
    let (n, d) := scale num den e
    let m := roundDiv n d
    let (m, e) := if m = Nat.pow 2 format.precision then (m / 2, e + 1) else (m, e)
    if format.greatestExponent < e then .infinite negative else .finite negative m e

/-- The number of the format nearest to an integer. -/
def ofInt (format : BinaryFormat) (n : Int) : Binary :=
  ofRatio format (decide (n < 0)) n.natAbs 1

/-- The exponent of ten beyond which a decimal is infinite or zero in every format here. -/
def decimalLimit : Int := 400

/-- The number of the format nearest to `digits * 10 ^ exponent`, where `digits` has `count`
decimal digits. A magnitude beyond `decimalLimit` is decided without computing the power. -/
def ofDecimal (format : BinaryFormat) (negative : Bool) (digits count : Nat) (exponent : Int) :
    Binary :=
  if digits = 0 then ofRatio format negative 0 1
  else if decimalLimit < exponent + (count : Int) then .infinite negative
  else if exponent + (count : Int) < -decimalLimit then ofRatio format negative 0 1
  else ofRatio format negative (digits * Nat.pow 10 exponent.toNat) (Nat.pow 10 (-exponent).toNat)

/-- The same number, or the nearest one, in another format. -/
def convert (format : BinaryFormat) : Binary → Binary
  | nan => nan
  | infinite negative => infinite negative
  | finite negative m e => ofRatio format negative (m * Nat.pow 2 e.toNat) (Nat.pow 2 (-e).toNat)

/-- The integers that two finite numbers are multiples of a common power of two by. -/
def align (neg₁ : Bool) (m₁ : Nat) (e₁ : Int) (neg₂ : Bool) (m₂ : Nat) (e₂ : Int) : Int × Int :=
  let e := min e₁ e₂
  let a : Nat := m₁ * Nat.pow 2 (e₁ - e).toNat
  let b : Nat := m₂ * Nat.pow 2 (e₂ - e).toNat
  (if neg₁ then -a else a, if neg₂ then -b else b)

/-- The order of the numbers. A not-a-number is neither below nor above anything, and the two
zeros are equal. -/
def lt : Binary → Binary → Bool
  | nan, _ => false
  | _, nan => false
  | infinite neg₁, infinite neg₂ => neg₁ && !neg₂
  | infinite neg, finite .. => neg
  | finite .., infinite neg => !neg
  | finite neg₁ m₁ e₁, finite neg₂ m₂ e₂ =>
    let (a, b) := align neg₁ m₁ e₁ neg₂ m₂ e₂
    decide (a < b)

/-- The sign at the front of a text, and the rest of it. -/
def takeSign : List Char → Bool × List Char
  | '-' :: s => (true, s)
  | '+' :: s => (false, s)
  | s => (false, s)

/-- The exponent part of a decimal, such as `e-7`; nothing written is zero. -/
def exponentPart? : List Char → Option Int
  | [] => some 0
  | c :: s =>
    if c = 'e' ∨ c = 'E' then
      let (negative, digits) := takeSign s
      (parseNat? digits).map fun (n : Nat) => if negative then -(n : Int) else n
    else none

/-- The number of the format nearest to an unsigned decimal: digits, possibly a point among or
after them, and possibly an exponent part. -/
def ofUnsignedDecimal? (format : BinaryFormat) (negative : Bool) (s : List Char) :
    Option Binary := do
  let (whole, s) := s.span Char.isDigit
  let (fraction, s) := match s with
    | '.' :: s => s.span Char.isDigit
    | s => ([], s)
  let digits := whole ++ fraction
  let n ← parseNat? digits
  let e ← exponentPart? s
  let count := (digits.dropWhile (· == '0')).length
  return ofDecimal format negative n count (e - fraction.length)

/-- The number of the format nearest to the number that a text denotes. Besides decimals, `inf`,
`infinity` and `nan` are read in any mixture of cases. -/
def ofText? (format : BinaryFormat) (s : List Char) : Option Binary :=
  let (negative, s) := takeSign s
  let word := String.ofList (s.map Char.toLower)
  if word = "inf" ∨ word = "infinity" then some (.infinite negative)
  else if word = "nan" then some .nan
  else ofUnsignedDecimal? format negative s

end Binary

end WebMount.Number
