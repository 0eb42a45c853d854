import Mathlib.Algebra.Order.Field.Power
import Mathlib.Algebra.Order.Ring.Rat
import Mathlib.Tactic.FieldSimp
import Mathlib.Tactic.Linarith
import Mathlib.Tactic.Positivity
import Mathlib.Tactic.Ring
import WebMount.Number.Binary

/-!
# Binary numbers as rational numbers

A finite binary number has an exact value among the rationals (`Binary.value?`). The comparison of
binary numbers brings significands to a common power of two; it is the order of the exact values
(`Binary.lt_eq_true_iff`). A number belongs to a format if its significand fits into the precision
and its exponent lies between those of the format (`Binary.IsOf`).
-/

namespace WebMount.Number

/-- A format in which a significand has at least one bit and there is at least one exponent. -/
structure BinaryFormat.WellFormed (format : BinaryFormat) : Prop where
  precision_pos : 0 < format.precision
  exponents_le : format.leastExponent ≤ format.greatestExponent

theorem wellFormed_binary32 : binary32.WellFormed :=
  ⟨by decide, by decide⟩

theorem wellFormed_binary64 : binary64.WellFormed :=
  ⟨by decide, by decide⟩

/-- A magnitude, negated if `negative` says so. -/
def signed (negative : Bool) (q : ℚ) : ℚ :=
  if negative then -q else q

namespace Binary

/-- The exact value of a finite number. -/
def value? : Binary → Option ℚ
  | finite negative m e => some (signed negative (m * 2 ^ e))
  | _ => none

/-- A number that the format has. -/
def IsOf (format : BinaryFormat) : Binary → Prop
  | finite _ m e =>
    m < 2 ^ format.precision ∧ format.leastExponent ≤ e ∧ e ≤ format.greatestExponent
  | _ => True

instance (format : BinaryFormat) : (x : Binary) → Decidable (x.IsOf format)
  | nan => inferInstanceAs (Decidable True)
  | infinite _ => inferInstanceAs (Decidable True)
  | finite .. => inferInstanceAs (Decidable (_ ∧ _ ∧ _))

theorem exists_finite_of_value? {y : Binary} {b : ℚ} (hb : y.value? = some b) :
    ∃ negative m e, y = finite negative m e ∧ b = signed negative (m * 2 ^ e) := by
  cases y with
  | finite negative m e => exact ⟨negative, m, e, rfl, (Option.some.inj hb).symm⟩
  | _ => exact absurd hb (by simp [value?])

/-! ### Powers of two -/

theorem cast_pow_toNat (e : ℤ) :
    ((Nat.pow 2 e.toNat : ℕ) : ℚ) / (Nat.pow 2 (-e).toNat : ℕ) = 2 ^ e := by
  rw [Nat.pow_eq, Nat.pow_eq, Nat.cast_pow, Nat.cast_pow, Nat.cast_ofNat, ← zpow_natCast,
    ← zpow_natCast, ← zpow_sub₀ two_ne_zero]
  congr 1
  omega

/-- The integer by which a finite number is a multiple of a power of two that is not above its
own. -/
private theorem cast_align {e least : ℤ} (h : least ≤ e) (negative : Bool) (m : ℕ) :
    (((if negative then -((m * Nat.pow 2 (e - least).toNat : ℕ) : ℤ)
      else (m * Nat.pow 2 (e - least).toNat : ℕ) : ℤ)) : ℚ) * 2 ^ least =
      signed negative (m * 2 ^ e) := by
  have hpow : ((Nat.pow 2 (e - least).toNat : ℕ) : ℚ) * 2 ^ least = 2 ^ e := by
    rw [Nat.pow_eq, Nat.cast_pow, Nat.cast_ofNat, ← zpow_natCast, ← zpow_add₀ two_ne_zero]
    congr 1
    omega
  rw [signed, ← hpow]
  cases negative with
  | false =>
    rw [if_neg Bool.false_ne_true, if_neg Bool.false_ne_true]
    push_cast
    ring
  | true =>
    rw [if_pos rfl, if_pos rfl]
    push_cast
    ring

/-- **Binary numbers are compared by their exact values.** -/
theorem lt_eq_true_iff {x y : Binary} {a b : ℚ} (hx : x.value? = some a) (hy : y.value? = some b) :
    x.lt y = true ↔ a < b := by
  obtain ⟨neg₁, m₁, e₁, rfl, rfl⟩ := exists_finite_of_value? hx
  obtain ⟨neg₂, m₂, e₂, rfl, rfl⟩ := exists_finite_of_value? hy
  rw [lt, align, decide_eq_true_iff, ← cast_align (min_le_left e₁ e₂) neg₁ m₁,
    ← cast_align (min_le_right e₁ e₂) neg₂ m₂, mul_lt_mul_iff_of_pos_right (by positivity),
    Int.cast_lt]

end Binary

end WebMount.Number
