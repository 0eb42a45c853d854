import WebMount.Proofs.Number.Exact

/-!
# Rounding keeps the order

Rounding takes a ratio to a significand and an exponent. Whatever number of the format the ratio is
not above, the rounded number is not above it either, and likewise from below (`Rounds`). So
rounding never carries a ratio across a number of the format; it can only carry it onto one
(`not_lt_ofRatio`, `ofRatio_not_lt`). In particular the numbers of the format are left as they are
(`value?_ofRatio`).
-/

namespace WebMount.Number.Binary

variable {format : BinaryFormat} {num den : ℕ}

/-! ### Whole quotients -/

theorem roundDiv_le {k : ℕ} (hden : 0 < den) (h : num ≤ k * den) : roundDiv num den ≤ k := by
  have hdiv : num / den ≤ k := Nat.div_le_of_le_mul (by rwa [Nat.mul_comm])
  have hmod : num / den = k → num % den = 0 := by
    intro hk
    have hsum := Nat.div_add_mod num den
    rw [hk, Nat.mul_comm] at hsum
    omega
  simp only [roundDiv]
  split_ifs <;> omega

theorem le_roundDiv {k : ℕ} (hden : 0 < den) (h : k * den ≤ num) : k ≤ roundDiv num den := by
  have hdiv : k ≤ num / den := (Nat.le_div_iff_mul_le hden).mpr h
  simp only [roundDiv]
  split_ifs <;> omega

theorem roundDiv_le_of_div_le {k : ℕ} (hden : 0 < den) (h : (num : ℚ) / den ≤ k) :
    roundDiv num den ≤ k := by
  rw [div_le_iff₀ (Nat.cast_pos.mpr hden)] at h
  exact roundDiv_le hden (by exact_mod_cast h)

theorem le_roundDiv_of_le_div {k : ℕ} (hden : 0 < den) (h : (k : ℚ) ≤ num / den) :
    k ≤ roundDiv num den := by
  rw [le_div_iff₀ (Nat.cast_pos.mpr hden)] at h
  exact le_roundDiv hden (by exact_mod_cast h)

/-! ### Scaling -/

theorem scale_pos (hden : 0 < den) (e : ℤ) : 0 < (scale num den e).2 :=
  Nat.mul_pos hden (Nat.pow_pos (by decide))

theorem scale_div (num den : ℕ) (e : ℤ) :
    ((scale num den e).1 : ℚ) / (scale num den e).2 = num / den / 2 ^ e := by
  have hpow := cast_pow_toNat (-e)
  rw [neg_neg] at hpow
  rw [scale, Nat.cast_mul, Nat.cast_mul, mul_div_mul_comm, hpow, zpow_neg, ← div_eq_mul_inv]

theorem cast_log2_bounds {n : ℕ} (h : n ≠ 0) :
    (2 : ℚ) ^ (Nat.log2 n : ℤ) ≤ n ∧ (n : ℚ) < 2 ^ ((Nat.log2 n : ℤ) + 1) := by
  have hhigh : n < 2 ^ (Nat.log2 n + 1) := Nat.lt_log2_self
  constructor
  · rw [zpow_natCast]
    exact_mod_cast Nat.log2_self_le h
  · exact_mod_cast hhigh

/-- Both logarithms are exact to the next power of two, so their difference is at most one away. -/
theorem div_log2_bounds (hnum : num ≠ 0) (hden : 0 < den) :
    (2 : ℚ) ^ ((Nat.log2 num : ℤ) - Nat.log2 den - 1) ≤ num / den ∧
      (num : ℚ) / den < 2 ^ ((Nat.log2 num : ℤ) - Nat.log2 den + 1) := by
  have hdenq : (0 : ℚ) < den := Nat.cast_pos.mpr hden
  obtain ⟨hnumLow, hnumHigh⟩ := cast_log2_bounds hnum
  obtain ⟨hdenLow, hdenHigh⟩ := cast_log2_bounds hden.ne'
  constructor
  · rw [le_div_iff₀ hdenq]
    calc (2 : ℚ) ^ ((Nat.log2 num : ℤ) - Nat.log2 den - 1) * den
        ≤ 2 ^ ((Nat.log2 num : ℤ) - Nat.log2 den - 1) * 2 ^ ((Nat.log2 den : ℤ) + 1) := by
          gcongr
      _ = 2 ^ (Nat.log2 num : ℤ) := by
          rw [← zpow_add₀ two_ne_zero]
          congr 1
          omega
      _ ≤ num := hnumLow
  · rw [div_lt_iff₀ hdenq]
    calc (num : ℚ) < 2 ^ ((Nat.log2 num : ℤ) + 1) := hnumHigh
      _ = 2 ^ ((Nat.log2 num : ℤ) - Nat.log2 den + 1) * 2 ^ (Nat.log2 den : ℤ) := by
          rw [← zpow_add₀ two_ne_zero]
          congr 1
          omega
      _ ≤ 2 ^ ((Nat.log2 num : ℤ) - Nat.log2 den + 1) * den := by gcongr

/-- The logarithm of a ratio is exact: the scaled ratio is compared with one. -/
theorem floorLog2_bounds (hnum : num ≠ 0) (hden : 0 < den) :
    (2 : ℚ) ^ floorLog2 num den ≤ num / den ∧ (num : ℚ) / den < 2 ^ (floorLog2 num den + 1) := by
  obtain ⟨hlow, hhigh⟩ := div_log2_bounds hnum hden
  have hscale := scale_div num den ((Nat.log2 num : ℤ) - Nat.log2 den)
  have hscaled : (0 : ℚ) < (scale num den ((Nat.log2 num : ℤ) - Nat.log2 den)).2 :=
    Nat.cast_pos.mpr (scale_pos hden _)
  have hpow : (0 : ℚ) < 2 ^ ((Nat.log2 num : ℤ) - Nat.log2 den) := by positivity
  rw [floorLog2]
  dsimp only
  split
  · next hbelow =>
    have hone : (num : ℚ) / den / 2 ^ ((Nat.log2 num : ℤ) - Nat.log2 den) < 1 := by
      rw [← hscale, div_lt_one hscaled]
      exact_mod_cast hbelow
    rw [div_lt_one hpow] at hone
    refine ⟨hlow, ?_⟩
    rwa [sub_add_cancel]
  · next hbelow =>
    have hone : 1 ≤ (num : ℚ) / den / 2 ^ ((Nat.log2 num : ℤ) - Nat.log2 den) := by
      rw [← hscale, one_le_div hscaled]
      exact_mod_cast Nat.le_of_not_lt hbelow
    rw [one_le_div hpow] at hone
    exact ⟨hone, hhigh⟩

/-! ### One rounding -/

/-- The magnitudes of a format, were there no greatest exponent. -/
def Spans (format : BinaryFormat) (x : ℚ) : Prop :=
  ∃ (m : ℕ) (e : ℤ), m < 2 ^ format.precision ∧ format.leastExponent ≤ e ∧ x = m * 2 ^ e

/-- The significand and the exponent that a positive ratio is rounded to: they use the precision as
far as the least exponent lets them, and no magnitude of the format lies between the ratio and the
rounded one. -/
structure Rounds (format : BinaryFormat) (q : ℚ) (m : ℕ) (e : ℤ) : Prop where
  least_le : format.leastExponent ≤ e
  full : e = format.leastExponent ∨ 2 ^ format.precision ≤ 2 * m
  le_of_le : ∀ x, Spans format x → q ≤ x → m * 2 ^ e ≤ x
  ge_of_ge : ∀ x, Spans format x → x ≤ q → x ≤ m * 2 ^ e

/-- A magnitude whose exponent is not below `e` is a multiple of `2 ^ e`. -/
theorem exists_eq_mul_zpow {e e' : ℤ} (h : e ≤ e') (m : ℕ) :
    ∃ k : ℕ, (m : ℚ) * 2 ^ e' = k * 2 ^ e := by
  refine ⟨m * 2 ^ (e' - e).toNat, ?_⟩
  rw [Nat.cast_mul, Nat.cast_pow, Nat.cast_ofNat, mul_assoc, ← zpow_natCast,
    ← zpow_add₀ two_ne_zero]
  congr 2
  omega

/-- Below a magnitude that uses the whole precision there are all those of smaller exponents. -/
theorem lt_of_full {m m' : ℕ} {e e' : ℤ} (hfull : 2 ^ format.precision ≤ 2 * m)
    (hm' : m' < 2 ^ format.precision) (he : e' < e) : (m' : ℚ) * 2 ^ e' < m * 2 ^ e := by
  have hlt : (m' : ℚ) < 2 * m := by
    exact_mod_cast lt_of_lt_of_le hm' hfull
  have hpow : (2 : ℚ) ^ e' ≤ 2 ^ (e - 1) := zpow_le_zpow_right₀ one_le_two (by omega)
  calc (m' : ℚ) * 2 ^ e' < 2 * m * 2 ^ e' := by gcongr
    _ ≤ 2 * m * 2 ^ (e - 1) := by gcongr
    _ = m * 2 ^ e := by
        rw [zpow_sub_one₀ two_ne_zero]
        ring

/-- The exponent of the rounded number: the least one that leaves no more digits before the point
than the precision has. -/
def roundedExponent (format : BinaryFormat) (num den : ℕ) : ℤ :=
  max format.leastExponent (floorLog2 num den - (format.precision - 1))

/-- The significand of the rounded number, before a carry. -/
def roundedSignificand (format : BinaryFormat) (num den : ℕ) : ℕ :=
  let scaled := scale num den (roundedExponent format num den)
  roundDiv scaled.1 scaled.2

theorem roundedSignificand_le {k : ℕ} (hden : 0 < den)
    (h : (num : ℚ) / den ≤ k * 2 ^ roundedExponent format num den) :
    roundedSignificand format num den ≤ k := by
  refine roundDiv_le_of_div_le (scale_pos hden _) ?_
  rwa [scale_div, div_le_iff₀ (by positivity)]

theorem le_roundedSignificand {k : ℕ} (hden : 0 < den)
    (h : k * 2 ^ roundedExponent format num den ≤ (num : ℚ) / den) :
    k ≤ roundedSignificand format num den := by
  refine le_roundDiv_of_le_div (scale_pos hden _) ?_
  rwa [scale_div, le_div_iff₀ (by positivity)]

theorem roundedSignificand_le_pow (hnum : num ≠ 0) (hden : 0 < den) :
    roundedSignificand format num den ≤ 2 ^ format.precision := by
  refine roundedSignificand_le hden ?_
  have hexponent : floorLog2 num den + 1 ≤ format.precision + roundedExponent format num den := by
    rw [roundedExponent]
    omega
  calc (num : ℚ) / den ≤ 2 ^ (floorLog2 num den + 1) := (floorLog2_bounds hnum hden).2.le
    _ ≤ 2 ^ (format.precision + roundedExponent format num den) :=
        zpow_le_zpow_right₀ one_le_two hexponent
    _ = (2 ^ format.precision : ℕ) * 2 ^ roundedExponent format num den := by
        rw [zpow_add₀ two_ne_zero, zpow_natCast, Nat.cast_pow, Nat.cast_ofNat]

/-- Above the least exponent, half of the precision is reached by the ratio already. -/
theorem half_le_of_ne_least (hformat : format.WellFormed) (hnum : num ≠ 0) (hden : 0 < den)
    (h : roundedExponent format num den ≠ format.leastExponent) :
    ((2 ^ (format.precision - 1) : ℕ) : ℚ) * 2 ^ roundedExponent format num den ≤ num / den := by
  have hprecision := hformat.precision_pos
  have hexponent :
      ((format.precision - 1 : ℕ) : ℤ) + roundedExponent format num den = floorLog2 num den := by
    rw [roundedExponent] at h ⊢
    omega
  calc ((2 ^ (format.precision - 1) : ℕ) : ℚ) * 2 ^ roundedExponent format num den
      = 2 ^ floorLog2 num den := by
        rw [Nat.cast_pow, Nat.cast_ofNat, ← zpow_natCast, ← zpow_add₀ two_ne_zero, hexponent]
    _ ≤ num / den := (floorLog2_bounds hnum hden).1

theorem two_pow_eq_double (hformat : format.WellFormed) :
    2 ^ format.precision = 2 * 2 ^ (format.precision - 1) := by
  rw [← Nat.pow_succ', Nat.succ_eq_add_one, Nat.sub_add_cancel hformat.precision_pos]

/-- **The nearest significand crosses no magnitude of the format.** Magnitudes of exponents that are
not smaller are multiples of its last place. Those of smaller exponents are all below half of the
precision, which the ratio is not. -/
theorem rounds_roundedSignificand (hformat : format.WellFormed) (hnum : num ≠ 0) (hden : 0 < den) :
    Rounds format (num / den) (roundedSignificand format num den)
      (roundedExponent format num den) := by
  have hhalf : roundedExponent format num den ≠ format.leastExponent →
      2 ^ (format.precision - 1) ≤ roundedSignificand format num den := fun h =>
    le_roundedSignificand hden (half_le_of_ne_least hformat hnum hden h)
  have hdouble := two_pow_eq_double hformat
  refine ⟨le_max_left _ _, ?_, ?_, ?_⟩
  · by_cases h : roundedExponent format num den = format.leastExponent
    · exact .inl h
    · have hm := hhalf h
      exact .inr (by omega)
  · rintro x ⟨m, e, hm, he, rfl⟩ hle
    by_cases hexp : roundedExponent format num den ≤ e
    · obtain ⟨k, hk⟩ := exists_eq_mul_zpow hexp m
      rw [hk] at hle ⊢
      have hround := roundedSignificand_le hden hle
      gcongr
    · have hratio := half_le_of_ne_least hformat hnum hden (by omega)
      have hbelow := lt_of_full hdouble.le hm (Int.lt_of_not_ge hexp)
      exact absurd (hbelow.trans_le hratio) hle.not_gt
  · rintro x ⟨m, e, hm, he, rfl⟩ hge
    by_cases hexp : roundedExponent format num den ≤ e
    · obtain ⟨k, hk⟩ := exists_eq_mul_zpow hexp m
      rw [hk] at hge ⊢
      have hround := le_roundedSignificand hden hge
      gcongr
    · have hm' := hhalf (by omega)
      exact (lt_of_full (by omega) hm (Int.lt_of_not_ge hexp)).le

/-- A carry leaves the rounded magnitude as it is. -/
theorem Rounds.carry (hformat : format.WellFormed) {q : ℚ} {m : ℕ} {e : ℤ}
    (h : Rounds format q m e) (hm : m = 2 ^ format.precision) :
    Rounds format q (m / 2) (e + 1) := by
  have hdouble := two_pow_eq_double hformat
  have hhalf : 2 * (m / 2) = m := by omega
  have hsame : ((m / 2 : ℕ) : ℚ) * 2 ^ (e + 1) = m * 2 ^ e := by
    rw [zpow_add_one₀ two_ne_zero, ← mul_assoc, mul_right_comm, mul_comm _ (2 : ℚ)]
    congr 1
    exact_mod_cast hhalf
  refine ⟨h.least_le.trans (by omega), .inr (by omega), ?_, ?_⟩
  · rw [hsame]
    exact h.le_of_le
  · rw [hsame]
    exact h.ge_of_ge

/-- A positive ratio is rounded, and becomes infinite if the exponent is too great. -/
theorem exists_rounds (hformat : format.WellFormed) (negative : Bool) (hnum : num ≠ 0)
    (hden : 0 < den) :
    ∃ m e, m < 2 ^ format.precision ∧ Rounds format (num / den) m e ∧
      ofRatio format negative num den =
        if format.greatestExponent < e then .infinite negative else .finite negative m e := by
  have hrounds := rounds_roundedSignificand hformat hnum hden
  have hle : roundedSignificand format num den ≤ 2 ^ format.precision :=
    roundedSignificand_le_pow hnum hden
  have heq : ofRatio format negative num den =
      (let m := roundedSignificand format num den
      let e := roundedExponent format num den
      let carried := if m = 2 ^ format.precision then (m / 2, e + 1) else (m, e)
      if format.greatestExponent < carried.2 then .infinite negative
      else .finite negative carried.1 carried.2) := by
    rw [ofRatio, if_neg hnum]
    rfl
  rw [heq]
  dsimp only
  by_cases hcarry : roundedSignificand format num den = 2 ^ format.precision
  · have hpos : 0 < 2 ^ format.precision := Nat.two_pow_pos _
    rw [if_pos hcarry]
    exact ⟨_, _, by omega, hrounds.carry hformat hcarry, rfl⟩
  · rw [if_neg hcarry]
    exact ⟨_, _, by omega, hrounds, rfl⟩

/-! ### Numbers of the format -/

/-- A ratio that is not above some magnitude of the format does not become infinite. -/
theorem Rounds.le_greatest (hformat : format.WellFormed) {q : ℚ} {m m' : ℕ} {e e' : ℤ}
    (h : Rounds format q m e) (hm' : m' < 2 ^ format.precision)
    (hlow : format.leastExponent ≤ e') (hhigh : e' ≤ format.greatestExponent)
    (hle : q ≤ m' * 2 ^ e') : e ≤ format.greatestExponent := by
  by_contra hgreat
  have hexponents := hformat.exponents_le
  have hfull : 2 ^ format.precision ≤ 2 * m := h.full.resolve_left (by omega)
  have habove := lt_of_full hfull hm' (by omega : e' < e)
  exact absurd (h.le_of_le _ ⟨m', e', hm', hlow, rfl⟩ hle) habove.not_ge

theorem isOf_ofRatio (hformat : format.WellFormed) (negative : Bool) (hden : 0 < den) :
    (ofRatio format negative num den).IsOf format := by
  by_cases hnum : num = 0
  · rw [ofRatio, if_pos hnum]
    exact ⟨Nat.two_pow_pos _, le_refl _, hformat.exponents_le⟩
  · obtain ⟨m, e, hm, hrounds, heq⟩ := exists_rounds hformat negative hnum hden
    rw [heq]
    split
    · trivial
    · next hgreat => exact ⟨hm, hrounds.least_le, Int.not_lt.mp hgreat⟩

theorem ofRatio_ne_nan (format : BinaryFormat) (negative : Bool) (num den : ℕ) :
    ofRatio format negative num den ≠ .nan := by
  simp only [ofRatio]
  split_ifs <;> exact Binary.noConfusion

/-- Next to a magnitude of the format, a ratio stays on its side when it is rounded, or it is above
the magnitude and becomes infinite. -/
private theorem magnitude_cases (hformat : format.WellFormed) (negative : Bool) (hden : 0 < den)
    {m : ℕ} {e : ℤ} (hm : m < 2 ^ format.precision) (hlow : format.leastExponent ≤ e)
    (hhigh : e ≤ format.greatestExponent) :
    (ofRatio format negative num den = .infinite negative ∧ (m : ℚ) * 2 ^ e < num / den) ∨
      ∃ r, (ofRatio format negative num den).value? = some (signed negative r) ∧ 0 ≤ r ∧
        ((num : ℚ) / den ≤ m * 2 ^ e → r ≤ m * 2 ^ e) ∧
        (m * 2 ^ e ≤ (num : ℚ) / den → m * 2 ^ e ≤ r) := by
  by_cases hnum : num = 0
  · refine .inr ⟨0, ?_, le_refl _, fun _ => by positivity, fun h => ?_⟩
    · rw [ofRatio, if_pos hnum, value?, Nat.cast_zero, zero_mul]
    · rwa [hnum, Nat.cast_zero, zero_div] at h
  obtain ⟨m', e', -, hrounds, heq⟩ := exists_rounds hformat negative hnum hden
  have hspans : Spans format (m * 2 ^ e) := ⟨m, e, hm, hlow, rfl⟩
  rw [heq]
  by_cases hgreat : format.greatestExponent < e'
  · rw [if_pos hgreat]
    refine .inl ⟨rfl, lt_of_not_ge fun hle => ?_⟩
    exact absurd (hrounds.le_greatest hformat hm hlow hhigh hle) hgreat.not_ge
  · rw [if_neg hgreat]
    exact .inr ⟨m' * 2 ^ e', rfl, by positivity, hrounds.le_of_le _ hspans,
      hrounds.ge_of_ge _ hspans⟩

/-- **Rounding crosses no number of the format.** Next to such a number, a ratio stays on its side
when it is rounded to a finite number, and becomes infinite only away from it. -/
theorem ofRatio_cases (hformat : format.WellFormed) (negative : Bool) (hden : 0 < den) {y : Binary}
    {b : ℚ} (hy : y.IsOf format) (hb : y.value? = some b) :
    (ofRatio format negative num den = .infinite true ∧ signed negative (num / den) < b) ∨
    (ofRatio format negative num den = .infinite false ∧ b < signed negative (num / den)) ∨
      ∃ a, (ofRatio format negative num den).value? = some a ∧
        (signed negative (num / den) ≤ b → a ≤ b) ∧ (b ≤ signed negative (num / den) → b ≤ a) := by
  obtain ⟨sign, m, e, rfl, rfl⟩ := exists_finite_of_value? hb
  obtain ⟨hm, hlow, hhigh⟩ := hy
  have hx : (0 : ℚ) ≤ m * 2 ^ e := by positivity
  have hq : (0 : ℚ) ≤ num / den := by positivity
  obtain ⟨heq, hbeyond⟩ | ⟨r, hr, hpos, hup, hdown⟩ :=
    magnitude_cases hformat negative hden hm hlow hhigh
  · cases negative with
    | false =>
      refine .inr (.inl ⟨heq, ?_⟩)
      cases sign <;> simp only [signed] <;> grind
    | true =>
      refine .inl ⟨heq, ?_⟩
      cases sign <;> simp only [signed] <;> grind
  · refine .inr (.inr ⟨_, hr, ?_⟩)
    -- numbers of different signs lie on the two sides of zero, and negation turns the sides
    cases negative <;> cases sign <;> simp only [signed] <;> grind

section

variable (hformat : format.WellFormed) (hden : 0 < den) {negative : Bool} {y : Binary} {b : ℚ}
  (hy : y.IsOf format) (hb : y.value? = some b)
include hformat hden hy hb

theorem not_lt_ofRatio (h : signed negative (num / den) ≤ b) :
    y.lt (ofRatio format negative num den) = false := by
  obtain ⟨sign, m, e, rfl, -⟩ := exists_finite_of_value? hb
  obtain ⟨heq, -⟩ | ⟨-, hbeyond⟩ | ⟨a, ha, hup, -⟩ := ofRatio_cases hformat negative hden hy hb
  · rw [heq]
    rfl
  · exact absurd h hbeyond.not_ge
  · rw [← Bool.not_eq_true, lt_eq_true_iff hb ha]
    exact (hup h).not_gt

theorem ofRatio_not_lt (h : b ≤ signed negative (num / den)) :
    (ofRatio format negative num den).lt y = false := by
  obtain ⟨sign, m, e, rfl, -⟩ := exists_finite_of_value? hb
  obtain ⟨-, hbeyond⟩ | ⟨heq, -⟩ | ⟨a, ha, -, hdown⟩ := ofRatio_cases hformat negative hden hy hb
  · exact absurd h hbeyond.not_ge
  · rw [heq]
    rfl
  · rw [← Bool.not_eq_true, lt_eq_true_iff ha hb]
    exact (hdown h).not_gt

/-- **A number of the format is left as it is.** -/
theorem value?_ofRatio (h : signed negative (num / den) = b) :
    (ofRatio format negative num den).value? = some b := by
  obtain ⟨-, hbeyond⟩ | ⟨-, hbeyond⟩ | ⟨a, ha, hup, hdown⟩ :=
    ofRatio_cases hformat negative hden hy hb
  · exact absurd h hbeyond.ne
  · exact absurd h hbeyond.ne'
  · rw [ha, le_antisymm (hup h.le) (hdown h.ge)]

end

/-! ### Integers, other formats and texts -/

theorem signed_natAbs (n : ℤ) : signed (decide (n < 0)) ((n.natAbs : ℚ) / (1 : ℕ)) = n := by
  rw [Nat.cast_one, div_one, signed]
  by_cases h : n < 0
  · rw [if_pos (decide_eq_true h), Nat.cast_natAbs, abs_of_neg h, Int.cast_neg, neg_neg]
  · rw [if_neg (by simpa using h), Nat.cast_natAbs, abs_of_nonneg (Int.not_lt.mp h)]

section

variable (hformat : format.WellFormed) {y : Binary} {b : ℚ} (hy : y.IsOf format)
  (hb : y.value? = some b) {n : ℤ}
include hformat hy hb

theorem not_lt_ofInt (h : (n : ℚ) ≤ b) : y.lt (ofInt format n) = false :=
  not_lt_ofRatio hformat Nat.one_pos hy hb ((signed_natAbs n).trans_le h)

theorem ofInt_not_lt (h : b ≤ (n : ℚ)) : (ofInt format n).lt y = false :=
  ofRatio_not_lt hformat Nat.one_pos hy hb (h.trans_eq (signed_natAbs n).symm)

variable {a : ℚ} (ha : (ofInt format n).value? = some a)
include ha

theorem value_ofInt_le (h : (n : ℚ) ≤ b) : a ≤ b := by
  have hnot := not_lt_ofInt hformat hy hb h
  rwa [← Bool.not_eq_true, lt_eq_true_iff hb ha, not_lt] at hnot

theorem le_value_ofInt (h : b ≤ (n : ℚ)) : b ≤ a := by
  have hnot := ofInt_not_lt hformat hy hb h
  rwa [← Bool.not_eq_true, lt_eq_true_iff ha hb, not_lt] at hnot

end

/-- Whole numbers with no more digits than the precision has, and the next one, are exact. -/
theorem value?_ofInt (hformat : format.WellFormed) (hzero : format.leastExponent ≤ 0)
    (hone : 1 ≤ format.greatestExponent) {n : ℤ} (h : n.natAbs ≤ 2 ^ format.precision) :
    (ofInt format n).value? = some (n : ℚ) := by
  have hdouble := two_pow_eq_double hformat
  have hpos := Nat.two_pow_pos (format.precision - 1)
  obtain ⟨m, e, hm, hlow, hhigh, hn⟩ : ∃ (m : ℕ) (e : ℤ), m < 2 ^ format.precision ∧
      format.leastExponent ≤ e ∧ e ≤ format.greatestExponent ∧ (n.natAbs : ℚ) = m * 2 ^ e := by
    rcases Nat.lt_or_eq_of_le h with hlt | heq
    · exact ⟨n.natAbs, 0, hlt, hzero, by omega, by rw [zpow_zero, mul_one]⟩
    · refine ⟨2 ^ (format.precision - 1), 1, by omega, by omega, hone, ?_⟩
      rw [heq, hdouble, Nat.cast_mul, zpow_one, mul_comm, Nat.cast_ofNat]
  have hof : (finite (decide (n < 0)) m e).IsOf format := ⟨hm, hlow, hhigh⟩
  refine value?_ofRatio hformat Nat.one_pos hof ?_ (signed_natAbs n)
  rw [value?, ← hn, ← signed_natAbs n, Nat.cast_one, div_one]

/-- A number of the narrow format keeps its value in the wide one. -/
theorem value?_convert {x : Binary} (hx : x.IsOf binary32) :
    (x.convert binary64).value? = x.value? := by
  cases x with
  | nan => rfl
  | infinite negative => rfl
  | finite negative m e =>
    obtain ⟨hm, hlow, hhigh⟩ := hx
    have hof : (finite negative m e).IsOf binary64 :=
      ⟨hm.trans (by decide), le_trans (by decide) hlow, hhigh.trans (by decide)⟩
    have hden : 0 < Nat.pow 2 (-e).toNat := Nat.pow_pos (by decide)
    refine value?_ofRatio wellFormed_binary64 hden hof rfl ?_
    rw [Nat.cast_mul, mul_div_assoc, cast_pow_toNat]

theorem isOf_ofDecimal (hformat : format.WellFormed) (negative : Bool) (digits count : ℕ)
    (exponent : ℤ) : (ofDecimal format negative digits count exponent).IsOf format := by
  unfold ofDecimal
  split_ifs
  · exact isOf_ofRatio hformat negative Nat.one_pos
  · trivial
  · exact isOf_ofRatio hformat negative Nat.one_pos
  · exact isOf_ofRatio hformat negative (Nat.pow_pos (by decide))

/-- **What is read is a number of the format.** -/
theorem isOf_of_ofText? (hformat : format.WellFormed) {s : List Char} {x : Binary}
    (h : ofText? format s = some x) : x.IsOf format := by
  simp only [ofText?] at h
  split_ifs at h
  · obtain rfl := Option.some.inj h
    trivial
  · obtain rfl := Option.some.inj h
    trivial
  · simp only [ofUnsignedDecimal?] at h
    obtain ⟨digits, -, h⟩ := Option.bind_eq_some_iff.mp h
    obtain ⟨exponent, -, h⟩ := Option.bind_eq_some_iff.mp h
    obtain rfl := Option.some.inj h
    exact isOf_ofDecimal hformat _ _ _ _

end WebMount.Number.Binary
