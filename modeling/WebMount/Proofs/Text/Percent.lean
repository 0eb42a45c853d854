import WebMount.Proofs.Text.Utf8
import WebMount.Text.Percent

/-!
# Percent-encoding is read back

An escape is read as the byte that it was written for (`decode_escape_append`), and a character of
ASCII other than the percent sign as itself, so what was encoded is decoded to the same bytes
(`decode_encode`). What stands in an encoded text are the characters that stand for themselves and
escapes (`encoded_encode`).
-/

namespace WebMount.Percent

/-- A byte other than a percent sign is read as itself. -/
theorem decode_cons_of_ne {b : UInt8} (h : b ≠ 37) (bytes : Bytes) :
    decode (b :: bytes) = b :: decode bytes := by
  rw [decode]
  -- the equation for other bytes asks for the first one to fail
  exact fun _ _ _ hpercent _ => h hpercent

/-- An escape is read as the byte of its two digits. -/
theorem decode_escape {hi lo : UInt8} {h l : Nat} (hhi : hexValue? hi = some h)
    (hlo : hexValue? lo = some l) (bytes : Bytes) :
    decode (37 :: hi :: lo :: bytes) = (h * 16 + l).toUInt8 :: decode bytes := by
  rw [decode, hhi, hlo]

/-! ### Escapes -/

/-- The byte of a hexadecimal digit. -/
def digitByte (n : Nat) : UInt8 :=
  UInt8.ofNat (hexDigit n).toNat

theorem digitByte_eq : ∀ n < 16, String.utf8EncodeChar (hexDigit n) = [digitByte n] ∧
    hexValue? (digitByte n) = some n := by
  decide

/-- The bytes of an escape. -/
theorem utf8_escape (b : UInt8) :
    Utf8.encode (escape b) = [37, digitByte (b.toNat / 16), digitByte (b.toNat % 16)] := by
  have hlt : b.toNat < 256 := b.toNat_lt
  have hhigh := (digitByte_eq (b.toNat / 16) (by omega)).1
  have hlow := (digitByte_eq (b.toNat % 16) (by omega)).1
  have hpercent : String.utf8EncodeChar '%' = [37] := by decide
  rw [escape, Utf8.encode_cons, Utf8.encode_cons, Utf8.encode_cons, hhigh, hlow, hpercent]
  rfl

/-- **An escape is read as the byte that it was written for.** -/
theorem decode_escape_append (b : UInt8) (bytes : Bytes) :
    decode (Utf8.encode (escape b) ++ bytes) = b :: decode bytes := by
  have hlt : b.toNat < 256 := b.toNat_lt
  have hvalue : (b.toNat / 16 * 16 + b.toNat % 16).toUInt8 = b := by
    rw [Nat.div_add_mod']
    exact UInt8.ofNat_toNat
  rw [utf8_escape]
  exact (decode_escape (digitByte_eq (b.toNat / 16) (by omega)).2
    (digitByte_eq (b.toNat % 16) (by omega)).2 bytes).trans (by rw [hvalue])

/-! ### Encoded texts -/

/-- Characters that stand for themselves, and percent signs with two hexadecimal digits behind
each. -/
inductive Encoded (plain : Char → Bool) : List Char → Prop
  | nil : Encoded plain []
  | plain {c : Char} {s : List Char} (h : plain c = true) (hs : Encoded plain s) :
    Encoded plain (c :: s)
  | escape {high low : Char} {s : List Char}
    (hhigh : high.isDigit = true ∨ 'A' ≤ high ∧ high ≤ 'F')
    (hlow : low.isDigit = true ∨ 'A' ≤ low ∧ low ≤ 'F') (hs : Encoded plain s) :
    Encoded plain ('%' :: high :: low :: s)

theorem hexDigit_eq : ∀ n < 16,
    (hexDigit n).isDigit = true ∨ 'A' ≤ hexDigit n ∧ hexDigit n ≤ 'F' := by
  decide

theorem encoded_encode {kept : UInt8 → Bool} {plain : Char → Bool}
    (h : ∀ b, kept b = true → plain (Char.ofNat b.toNat) = true) (bytes : Bytes) :
    Encoded plain (encode kept bytes) := by
  induction bytes with
  | nil => exact .nil
  | cons b bytes ih =>
    have hlt : b.toNat < 256 := b.toNat_lt
    rw [encode, List.flatMap_cons]
    split
    · next hkept => exact .plain (h b hkept) ih
    · exact .escape (hexDigit_eq (b.toNat / 16) (by omega)) (hexDigit_eq (b.toNat % 16) (by omega))
        ih

theorem utf8EncodeChar_ofNat : ∀ n < 128, String.utf8EncodeChar (Char.ofNat n) =
    [UInt8.ofNat n] := by
  decide

/-- **What was encoded is decoded to the same bytes**, if only bytes of ASCII are kept, and not the
percent sign. -/
theorem decode_encode {kept : UInt8 → Bool} (h : ∀ b, kept b = true → b.toNat < 128 ∧ b ≠ 37)
    (bytes : Bytes) : decode (Utf8.encode (encode kept bytes)) = bytes := by
  induction bytes with
  | nil => rfl
  | cons b bytes ih =>
    rw [encode, List.flatMap_cons, Utf8.encode_append]
    split
    · next hkept =>
      obtain ⟨hascii, hpercent⟩ := h b hkept
      have hbyte : Utf8.encode [Char.ofNat b.toNat] = [b] := by
        rw [Utf8.encode_cons, utf8EncodeChar_ofNat b.toNat hascii, UInt8.ofNat_toNat]
        rfl
      rw [hbyte, List.singleton_append, decode_cons_of_ne hpercent]
      exact congrArg (b :: ·) ih
    · rw [decode_escape_append]
      exact congrArg (b :: ·) ih

end WebMount.Percent
