/-!
# Whole numbers in other radices

Digits beyond nine are the letters from `a`, in either case. A text of digits denotes the value of
the polynomial that they are the coefficients of.
-/

namespace WebMount.Number

/-- The value of a digit in a radix of at most sixteen. -/
def digit? (radix : Nat) (c : Char) : Option Nat :=
  let value? :=
    if c.isDigit then some (c.toNat - '0'.toNat)
    else if 'a' ≤ c ∧ c ≤ 'f' then some (c.toNat - 'a'.toNat + 10)
    else if 'A' ≤ c ∧ c ≤ 'F' then some (c.toNat - 'A'.toNat + 10)
    else none
  value?.filter (· < radix)

/-- A digit of a radix of at most sixteen. -/
def isDigit (radix : Nat) (c : Char) : Bool :=
  (digit? radix c).isSome

/-- The number that a text of one or more digits denotes in a radix. -/
def parseRadix? (radix : Nat) (s : List Char) : Option Nat :=
  if s = [] then none
  else (s.mapM (digit? radix)).map fun digits => digits.foldl (fun n d => radix * n + d) 0

end WebMount.Number
