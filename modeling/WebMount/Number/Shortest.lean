import WebMount.Number.Binary

/-!
# The shortest decimal that reads back

A finite binary number is written with the fewest significant digits that round to it again, and
of the decimals with that many digits the nearest one. The reals that round to the number form
an interval; its ends belong to it where the significand is even. For each count of digits the
two neighbours of the number among the decimals with that many digits are tried, since no other
such decimal can lie in the interval unless one of them does. The text is always positional.
-/

namespace WebMount.Number.Binary

/-- The count of significant digits that always suffices. -/
def maxDigits : Nat := 17

/-- A positive ratio and the interval of ratios that round to it, all over the denominator
`den`; `closed` tells whether the ends belong to the interval. -/
structure RoundingInterval where
  low : Nat
  value : Nat
  high : Nat
  den : Nat
  closed : Bool
  deriving DecidableEq, Repr

/-- The interval of a finite number. Below a power of two the neighbouring numbers are half as
far away as above it, unless they are subnormal. -/
def interval (format : BinaryFormat) (m : Nat) (e : Int) : RoundingInterval :=
  let unit := Nat.pow 2 e.toNat
  let below := if m = Nat.pow 2 (format.precision - 1) ∧ e ≠ format.leastExponent then 1 else 2
  let den := 4 * Nat.pow 2 (-e).toNat
  ⟨(4 * m - below) * unit, 4 * m * unit, (4 * m + 2) * unit, den, m % 2 = 0⟩

/-- Whether the decimal `n * 10 ^ k` lies in the interval. -/
def RoundingInterval.holds (i : RoundingInterval) (n : Nat) (k : Int) : Bool :=
  let x := n * Nat.pow 10 k.toNat * i.den
  let scale := Nat.pow 10 (-k).toNat
  if i.closed then decide (i.low * scale ≤ x ∧ x ≤ i.high * scale)
  else decide (i.low * scale < x ∧ x < i.high * scale)

/-- The place of the leading digit of `num / den`: the `k` for which the ratio lies between
`10 ^ (k - 1)` and `10 ^ k`, the former included. -/
def leadingPlace (num den : Nat) : Int :=
  ((renderNat (num * Nat.pow 10 decimalLimit.toNat / den)).length : Int) - decimalLimit

/-- The neighbour of the number with places down to `10 ^ k` that lies in the interval; of two
the nearer, and the upper one in a tie. -/
def nearestAt? (i : RoundingInterval) (k : Int) : Option Nat :=
  let num := i.value * Nat.pow 10 (-k).toNat
  let den := i.den * Nat.pow 10 k.toNat
  let n := num / den
  match i.holds n k, i.holds (n + 1) k with
  | true, true => if den ≤ 2 * (num % den) then some (n + 1) else some n
  | true, false => some n
  | false, true => some (n + 1)
  | false, false => none

/-- The decimal `n * 10 ^ k` without zeros at the end of `n`, as far as `fuel` goes. -/
def dropZeros : Nat → Nat → Int → Nat × Int
  | 0, n, k => (n, k)
  | fuel + 1, n, k => if n % 10 = 0 then dropZeros fuel (n / 10) (k + 1) else (n, k)

/-- The shortest decimal `n * 10 ^ k` that rounds to the finite number `m * 2 ^ e`, as `(n, k)`. -/
def shortest (format : BinaryFormat) (m : Nat) (e : Int) : Nat × Int :=
  let i := interval format m e
  let place := leadingPlace i.value i.den
  let found := (List.range' 1 maxDigits).findSome? fun (count : Nat) =>
    (nearestAt? i (place - count)).map fun n => (n, place - (count : Int))
  let (n, k) := found.getD (0, 0)
  dropZeros (maxDigits + 1) n k

/-- The decimal `n * 10 ^ k` in positional form. -/
def renderPositional (n : Nat) (k : Int) : List Char :=
  if 0 ≤ k then renderNat n ++ List.replicate k.toNat '0'
  else
    let places := (-k).toNat
    let digits := renderPadded (places + 1) n
    digits.take (digits.length - places) ++ '.' :: digits.drop (digits.length - places)

/-- A number of the format in decimal: the shortest text that reads back to it. -/
def render (format : BinaryFormat) : Binary → List Char
  | nan => ['N', 'a', 'N']
  | infinite negative => (if negative then ['-'] else []) ++ ['i', 'n', 'f']
  | finite negative m e =>
    let digits :=
      if m = 0 then ['0']
      else
        let (n, k) := shortest format m e
        renderPositional n k
    (if negative then ['-'] else []) ++ digits

end WebMount.Number.Binary
