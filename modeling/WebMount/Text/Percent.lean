import WebMount.Text.Utf8

/-!
# Percent-encoding

A byte is written as itself or as a percent sign and two hexadecimal digits. Decoding reads back
whatever was encoded and leaves a percent sign that no two hexadecimal digits follow as it is.
-/

namespace WebMount.Percent

/-- The bytes of ASCII characters that letters and digits have. -/
def isAlphanumeric (b : UInt8) : Bool :=
  (48 ≤ b && b ≤ 57) || (65 ≤ b && b ≤ 90) || (97 ≤ b && b ≤ 122)

/-- The hexadecimal digit of a number below sixteen, letters in upper case. -/
def hexDigit (n : Nat) : Char :=
  if n < 10 then Char.ofNat (48 + n) else Char.ofNat (55 + n)

/-- The value of a hexadecimal digit in either case. -/
def hexValue? (b : UInt8) : Option Nat :=
  if 48 ≤ b ∧ b ≤ 57 then some (b.toNat - 48)
  else if 65 ≤ b ∧ b ≤ 70 then some (b.toNat - 55)
  else if 97 ≤ b ∧ b ≤ 102 then some (b.toNat - 87)
  else none

/-- A percent sign and the two hexadecimal digits of a byte. -/
def escape (b : UInt8) : List Char :=
  ['%', hexDigit (b.toNat / 16), hexDigit (b.toNat % 16)]

/-- The bytes as text, those that are `kept` as themselves and the others escaped. -/
def encode (kept : UInt8 → Bool) (bytes : Bytes) : List Char :=
  bytes.flatMap fun b => if kept b then [Char.ofNat b.toNat] else escape b

/-- The bytes with every complete escape replaced by its byte. -/
def decode : Bytes → Bytes
  | 37 :: hi :: lo :: rest =>
    match hexValue? hi, hexValue? lo with
    | some h, some l => (h * 16 + l).toUInt8 :: decode rest
    | _, _ => 37 :: decode (hi :: lo :: rest)
  | b :: rest => b :: decode rest
  | [] => []

end WebMount.Percent
