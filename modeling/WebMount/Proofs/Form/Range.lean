import WebMount.Form.Component
import WebMount.Proofs.Number.Rounding

/-!
# What a range lets pass

A range validator compares the number of a field in the wide binary format. So it lets pass what is
in the range and what slips through that comparison: a not-a-number, which is neither below nor
above anything, and a whole number beyond `2 ^ 53` that lies outside of the range but is rounded
onto a bound (`errors_range_eq_nil_iff`). A field that passes its range is in range exactly if its
value is none of these (`inRange_iff_not_slips`).
-/

namespace WebMount.Form

open WebMount.Number

/-! ### Numbers and ranges -/

/-- A kind of numbers. -/
def Kind.IsNumeric : Kind → Prop
  | int _ | float _ => True
  | _ => False

namespace Value

/-- The exact value of a number that is finite. -/
def rational? : Value → Option ℚ
  | int _ n => some n
  | float _ x => x.value?
  | _ => none

/-- A number between two bounds, which belong to the range. -/
def InRange (low high : ℚ) (v : Value) : Prop :=
  ∃ q, v.rational? = some q ∧ low ≤ q ∧ q ≤ high

/-- The values that pass a range without being in it. -/
inductive Slips (low high : ℚ) : Value → Prop
  /-- A not-a-number compares with no bound. -/
  | notANumber (kind : FloatKind) : Slips low high (.float kind .nan)
  /-- A whole number below the range is rounded up to the lower bound. -/
  | ontoLow (kind : IntKind) {n : ℤ} (hwide : 2 ^ 53 < n.natAbs) (hbelow : n < low)
    (hround : (Binary.ofInt binary64 n).value? = some low) : Slips low high (.int kind n)
  /-- A whole number above the range is rounded down to the upper bound. -/
  | ontoHigh (kind : IntKind) {n : ℤ} (hwide : 2 ^ 53 < n.natAbs) (habove : high < n)
    (hround : (Binary.ofInt binary64 n).value? = some high) : Slips low high (.int kind n)

theorem not_inRange_of_slips {low high : ℚ} {v : Value} (h : v.Slips low high) :
    ¬v.InRange low high := by
  rintro ⟨q, hq, hlow, hhigh⟩
  cases h with
  | notANumber kind => exact absurd hq (by simp [rational?, Binary.value?])
  | ontoLow kind hwide hbelow hround =>
    obtain rfl := Option.some.inj hq
    exact absurd hlow hbelow.not_ge
  | ontoHigh kind hwide habove hround =>
    obtain rfl := Option.some.inj hq
    exact absurd hhigh habove.not_ge

end Value

/-! ### The validator -/

/-- A binary number is widened exactly, and what has no value is kept. -/
theorem Value.exists_number?_float {kind : FloatKind} {x : Binary} (hx : x.IsOf kind.format) :
    ∃ y, Value.number? (.float kind x) = some y ∧ y.value? = x.value? ∧
      (x.value? = none → y = x) := by
  cases kind with
  | float64 => exact ⟨x, rfl, rfl, fun _ => rfl⟩
  | float32 =>
    refine ⟨x.convert binary64, rfl, Binary.value?_convert hx, fun hnone => ?_⟩
    cases x with
    | finite negative m e => exact absurd hnone (by simp [Binary.value?])
    | _ => rfl

namespace Validator

/-- A whole number that is moved by rounding needs more than 53 digits. -/
theorem natAbs_lt_of_ne {n : ℤ} {a : ℚ} (ha : (Binary.ofInt binary64 n).value? = some a)
    (hmoved : a ≠ n) : 2 ^ 53 < n.natAbs := by
  by_contra hfits
  rw [Binary.value?_ofInt wellFormed_binary64 (by decide) (by decide)
    (Nat.le_of_not_lt hfits)] at ha
  exact hmoved (Option.some.inj ha).symm

theorem rangeErrors_eq_nil_iff {min max x : Binary} {label : String} :
    rangeErrors min max label x = [] ↔ x.lt min = false ∧ max.lt x = false := by
  rw [rangeErrors]
  cases x.lt min <;> cases max.lt x <;> simp

section

variable {min max : Binary} {low high : ℚ} (hlow : min.value? = some low)
  (hhigh : max.value? = some high) {label : String}
include hlow hhigh

/-- An infinite number is outside of every range. -/
theorem rangeErrors_infinite_ne_nil (negative : Bool) :
    rangeErrors min max label (.infinite negative) ≠ [] := by
  obtain ⟨_, _, _, rfl, -⟩ := Binary.exists_finite_of_value? hlow
  obtain ⟨_, _, _, rfl, -⟩ := Binary.exists_finite_of_value? hhigh
  rw [Ne, rangeErrors_eq_nil_iff]
  cases negative <;> simp [Binary.lt]

/-- What passes a range is finite or not a number. -/
theorem exists_value?_of_rangeErrors {x : Binary} (hx : x ≠ .nan)
    (hpass : rangeErrors min max label x = []) : ∃ a, x.value? = some a := by
  cases x with
  | nan => exact absurd rfl hx
  | infinite negative => exact absurd hpass (rangeErrors_infinite_ne_nil hlow hhigh negative)
  | finite negative m e => exact ⟨_, rfl⟩

/-- A finite number is compared exactly. -/
theorem rangeErrors_eq_nil_iff_of_value? {x : Binary} {q : ℚ} (hx : x.value? = some q) :
    rangeErrors min max label x = [] ↔ low ≤ q ∧ q ≤ high := by
  rw [rangeErrors_eq_nil_iff, ← Bool.not_eq_true, ← Bool.not_eq_true,
    Binary.lt_eq_true_iff hx hlow, Binary.lt_eq_true_iff hhigh hx, not_lt, not_lt]

/-- A binary number passes if it is in the range or not a number. -/
theorem errors_float_eq_nil_iff {kind : FloatKind} {x : Binary} (hx : x.IsOf kind.format)
    {valid : Bool} :
    (range min max).errors label (some (.float kind x)) valid = [] ↔
      Value.InRange low high (.float kind x) ∨ Value.Slips low high (.float kind x) := by
  obtain ⟨y, hy, hvalue, hsame⟩ := Value.exists_number?_float hx
  rw [errors, Option.bind_some, hy]
  cases x with
  | nan =>
    obtain rfl := hsame rfl
    refine iff_of_true ?_ (.inr (.notANumber kind))
    rw [rangeErrors_eq_nil_iff]
    exact ⟨rfl, by cases max <;> rfl⟩
  | infinite negative =>
    obtain rfl := hsame rfl
    refine iff_of_false (rangeErrors_infinite_ne_nil hlow hhigh negative) ?_
    rintro (⟨q, hq, -⟩ | h)
    · exact absurd hq (by simp [Value.rational?, Binary.value?])
    · cases h
  | finite negative m e =>
    rw [rangeErrors_eq_nil_iff_of_value? hlow hhigh hvalue]
    constructor
    · exact fun h => .inl ⟨_, rfl, h⟩
    · rintro (⟨q, hq, h⟩ | h)
      · obtain rfl := Option.some.inj hq
        exact h
      · cases h

variable (hmin : min.IsOf binary64) (hmax : max.IsOf binary64) (hle : low ≤ high)
include hmin hmax hle

/-- A whole number passes if it is in the range or rounded onto a bound: rounding crosses no
bound. -/
theorem errors_int_eq_nil_iff {kind : IntKind} {n : ℤ} {valid : Bool} :
    (range min max).errors label (some (.int kind n)) valid = [] ↔
      Value.InRange low high (.int kind n) ∨ Value.Slips low high (.int kind n) := by
  change rangeErrors min max label (Binary.ofInt binary64 n) = [] ↔ _
  constructor
  · intro hpass
    obtain ⟨a, ha⟩ :=
      exists_value?_of_rangeErrors hlow hhigh (Binary.ofRatio_ne_nan _ _ _ _) hpass
    obtain ⟨hlowa, hahigh⟩ := (rangeErrors_eq_nil_iff_of_value? hlow hhigh ha).mp hpass
    rcases lt_or_ge (n : ℚ) low with hbelow | hlown
    · have hle := Binary.value_ofInt_le wellFormed_binary64 hmin hlow ha hbelow.le
      obtain rfl := le_antisymm hle hlowa
      exact .inr (.ontoLow kind (natAbs_lt_of_ne ha hbelow.ne') hbelow ha)
    rcases lt_or_ge high (n : ℚ) with habove | hnhigh
    · have hge := Binary.le_value_ofInt wellFormed_binary64 hmax hhigh ha habove.le
      obtain rfl := le_antisymm hahigh hge
      exact .inr (.ontoHigh kind (natAbs_lt_of_ne ha habove.ne) habove ha)
    exact .inl ⟨n, rfl, hlown, hnhigh⟩
  · rintro (⟨q, hq, hlown, hnhigh⟩ | h)
    · obtain rfl := Option.some.inj hq
      rw [rangeErrors_eq_nil_iff]
      exact ⟨Binary.ofInt_not_lt wellFormed_binary64 hmin hlow hlown,
        Binary.not_lt_ofInt wellFormed_binary64 hmax hhigh hnhigh⟩
    · cases h with
      | ontoLow _ _ _ hround =>
        exact (rangeErrors_eq_nil_iff_of_value? hlow hhigh hround).mpr ⟨le_rfl, hle⟩
      | ontoHigh _ _ _ hround =>
        exact (rangeErrors_eq_nil_iff_of_value? hlow hhigh hround).mpr ⟨hle, le_rfl⟩

end

/-- All validators are asked about a value, and the field is valid if none of them finds an
error. -/
theorem collect_eq_nil_iff {label : String} {v : Value} {reported : List String}
    {validators : List Validator} :
    collect label (some v) reported validators = [] ↔
      reported = [] ∧ ∀ w ∈ validators, w.errors label (some v) true = [] := by
  induction validators generalizing reported with
  | nil => simp [collect]
  | cons w validators ih =>
    rw [collect, if_pos (by simp), ih, List.append_eq_nil_iff, List.forall_mem_cons, and_assoc]
    refine and_congr_right fun hnone => ?_
    rw [hnone, List.isEmpty_nil]

end Validator

/-! ### Fields -/

/-- A number as a field of a numeric kind gets it from its input. -/
inductive Value.IsNumber : Value → Prop
  | int (kind : IntKind) (n : ℤ) : IsNumber (.int kind n)
  | float (kind : FloatKind) {x : Binary} (hx : x.IsOf kind.format) : IsNumber (.float kind x)

theorem FloatKind.wellFormed_format (kind : FloatKind) : kind.format.WellFormed := by
  cases kind with
  | float32 => exact wellFormed_binary32
  | float64 => exact wellFormed_binary64

/-- Input of a numeric kind is converted to a number. -/
theorem FieldType.isNumber_of_convert {kind : Kind} (hkind : kind.IsNumeric) {input : String}
    {v : Value} (h : FieldType.convert ⟨kind, 0⟩ input = .ok v) : v.IsNumber := by
  change kind.convert input.toList = .ok v at h
  rw [Kind.convert] at h
  split at h
  · next value hvalue =>
    obtain rfl := Except.ok.inj h
    cases kind with
    | int kind =>
      obtain ⟨n, -, rfl⟩ := Option.map_eq_some_iff.mp hvalue
      exact .int kind n
    | float kind =>
      obtain ⟨x, hx, rfl⟩ := Option.map_eq_some_iff.mp hvalue
      exact .float kind (Binary.isOf_of_ofText? kind.wellFormed_format hx)
    | _ => exact hkind.elim
  · exact absurd h (by simp)

/-- **A range lets a number pass if it is in the range or slips through the comparison**, and no
other one. -/
theorem Validator.errors_range_eq_nil_iff {min max : Binary} {low high : ℚ}
    (hmin : min.IsOf binary64) (hmax : max.IsOf binary64) (hlow : min.value? = some low)
    (hhigh : max.value? = some high) (hle : low ≤ high) {v : Value} (hv : v.IsNumber)
    {label : String} {valid : Bool} :
    (range min max).errors label (some v) valid = [] ↔ v.InRange low high ∨ v.Slips low high := by
  cases hv with
  | int kind n => exact errors_int_eq_nil_iff hlow hhigh hmin hmax hle
  | float kind hx => exact errors_float_eq_nil_iff hlow hhigh hx

namespace Component

/-- A component is valid with a value if its input converts to that value and no validator finds an
error in it. -/
theorem validate_eq_some_iff {c : Component} {v : Value} :
    c.validate.1 = true ∧ c.validate.2.converted = some v ↔
      (∃ input, c.filledInput? = some input ∧ c.type.convert input = .ok v) ∧
        ∀ w ∈ c.validators, w.errors c.label (some v) true = [] := by
  have hfilled : ({ c with errors := [] } : Component).filledInput? = c.filledInput? := rfl
  simp only [validate, convertInput, hfilled]
  cases hinput : c.filledInput? with
  | none =>
    refine iff_of_false ?_ (by simp)
    by_cases hrequired : c.required = true <;> simp [hrequired]
  | some input =>
    rw [if_neg (by simp)]
    dsimp only
    cases hconvert : c.type.convert input with
    | error e => simp [hconvert]
    | ok value =>
      change (Validator.collect c.label (some value) [] c.validators).isEmpty = true ∧
        some value = some v ↔ _
      rw [List.isEmpty_iff, Validator.collect_eq_nil_iff, and_iff_right rfl, Option.some.injEq]
      constructor
      · rintro ⟨hnone, rfl⟩
        exact ⟨⟨input, rfl, hconvert⟩, hnone⟩
      · rintro ⟨⟨input', hsame, hv⟩, hnone⟩
        obtain rfl := Option.some.inj hsame
        obtain rfl := Except.ok.inj (hconvert.symm.trans hv)
        exact ⟨hnone, rfl⟩

/-- **A field of numbers that passes its range is in range**, unless its value slips through the
comparison; then it is out of range and passes. -/
theorem inRange_iff_not_slips {c : Component} {kind : Kind} (hkind : kind.IsNumeric)
    (htype : c.type = ⟨kind, 0⟩) {min max : Binary} (hrange : .range min max ∈ c.validators)
    (hmin : min.IsOf binary64) (hmax : max.IsOf binary64) {low high : ℚ}
    (hlow : min.value? = some low) (hhigh : max.value? = some high) (hle : low ≤ high) {v : Value}
    (hvalid : c.validate.1 = true) (hv : c.validate.2.converted = some v) :
    v.InRange low high ↔ ¬v.Slips low high := by
  obtain ⟨⟨input, -, hconvert⟩, hnone⟩ := validate_eq_some_iff.mp ⟨hvalid, hv⟩
  rw [htype] at hconvert
  have hnumber := FieldType.isNumber_of_convert hkind hconvert
  have hpass := (Validator.errors_range_eq_nil_iff hmin hmax hlow hhigh hle hnumber).mp
    (hnone _ hrange)
  exact ⟨fun hin hslips => Value.not_inRange_of_slips hslips hin, hpass.resolve_right⟩

/-- A field with a range, of which `input` is typed. -/
def ranged (kind : Kind) (min max : Binary) (input : String) : Component :=
  { id := "n", type := ⟨kind, 0⟩, input := some input, validators := [.range min max] }

/-- A field of whole numbers passes a range that ends below with `2 ^ 53`, where the number typed is
rounded onto this bound, but from within the range. -/
theorem inRange_iff_not_slips_within :
    let min := Binary.finite false (2 ^ 52) 1
    let max := Binary.finite false (2 ^ 52) 2
    let number := ranged (.int .int64) min max "9007199254740993"
    let v := Value.int .int64 9007199254740993
    min.value? = some (2 ^ 53) ∧ max.value? = some (2 ^ 54) ∧ number.validate.1 = true ∧
      number.validate.2.converted = some v ∧ v.InRange (2 ^ 53) (2 ^ 54) ∧
      ¬v.Slips (2 ^ 53) (2 ^ 54) := by
  intro min max number v
  have hlow : min.value? = some (2 ^ 53) := by norm_num [min, Binary.value?, signed]
  have hhigh : max.value? = some (2 ^ 54) := by norm_num [max, Binary.value?, signed]
  have hvalid : number.validate.1 = true := by decide +kernel
  have hin : v.InRange (2 ^ 53) (2 ^ 54) := ⟨_, rfl, by norm_num, by norm_num⟩
  have hnumeric : (Kind.int .int64).IsNumeric := trivial
  exact ⟨hlow, hhigh, hvalid, rfl, hin, (inRange_iff_not_slips hnumeric rfl List.mem_cons_self
    (by decide) (by decide) hlow hhigh (by norm_num) hvalid rfl).mp hin⟩

/-- A not-a-number passes every range, and `2 ^ 53 + 1` passes one that ends at `2 ^ 53`. -/
theorem passes_out_of_range :
    let one := Binary.finite false (2 ^ 52) (-52)
    let max := Binary.finite false (2 ^ 52) 1
    let word := ranged (.float .float64) one max "NaN"
    let number := ranged (.int .int64) one max "9007199254740993"
    one.value? = some 1 ∧ max.value? = some (2 ^ 53) ∧
    (word.validate.1 = true ∧ word.validate.2.converted = some (.float .float64 .nan) ∧
      ¬(Value.float .float64 .nan).InRange 1 (2 ^ 53)) ∧
    number.validate.1 = true ∧
      number.validate.2.converted = some (.int .int64 9007199254740993) ∧
      ¬(Value.int .int64 9007199254740993).InRange 1 (2 ^ 53) := by
  refine ⟨by norm_num [Binary.value?, signed], by norm_num [Binary.value?, signed],
    ⟨by decide +kernel, rfl, ?_⟩, by decide +kernel, rfl, ?_⟩
  · rintro ⟨q, hq, -⟩
    exact absurd hq (by simp [Value.rational?, Binary.value?])
  · rintro ⟨q, hq, -, hhigh⟩
    obtain rfl := Option.some.inj hq
    norm_num at hhigh

end Component

end WebMount.Form
