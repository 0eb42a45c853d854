/-!
# Whole numbers in decimal

Naturals and integers as decimal digits. Reading takes at most one sign and at least one digit,
and leading zeros are allowed; writing uses the fewest digits and a sign for negative numbers
only. What is written reads back (`parseInt?_renderInt`).
-/

namespace WebMount.Number

/-- The number that a text of one or more decimal digits denotes. -/
def parseNat? (s : List Char) : Option Nat :=
  if s ≠ [] ∧ s.all Char.isDigit then some (Nat.ofDigitChars 10 s 0) else none

/-- The number that digits denote behind an optional plus sign. -/
def parsePositive? : List Char → Option Nat
  | '+' :: s => parseNat? s
  | s => parseNat? s

/-- The number that digits denote behind an optional sign. -/
def parseInt? : List Char → Option Int
  | '-' :: s => (parseNat? s).map fun (n : Nat) => -(n : Int)
  | s => (parsePositive? s).map Int.ofNat

/-- The decimal digits of a natural number. -/
def renderNat (n : Nat) : List Char :=
  Nat.toDigits 10 n

/-- The decimal digits of an integer, behind a minus sign if it is negative. -/
def renderInt (n : Int) : List Char :=
  if n < 0 then '-' :: renderNat n.natAbs else renderNat n.natAbs

/-- The decimal digits of a natural number that is written with at least `width` digits. -/
def renderPadded (width n : Nat) : List Char :=
  (renderNat n).leftpad width '0'

theorem parseNat?_renderNat (n : Nat) : parseNat? (renderNat n) = some n := by
  have hall : (Nat.toDigits 10 n).all Char.isDigit = true := by
    simp only [List.all_eq_true]
    exact fun c hc => Nat.isDigit_of_mem_toDigits (by decide) (by decide) hc
  rw [parseNat?, renderNat, if_pos ⟨Nat.toDigits_ne_nil, hall⟩,
    Nat.ofDigitChars_toDigits (by decide) (by decide)]

/-- A written number starts with a digit. -/
theorem renderNat_eq_cons (n : Nat) : ∃ c s, renderNat n = c :: s ∧ c.isDigit = true := by
  cases h : renderNat n with
  | nil => exact absurd h Nat.toDigits_ne_nil
  | cons c s =>
    refine ⟨c, s, rfl, Nat.isDigit_of_mem_toDigits (b := 10) (n := n) (by decide) (by decide) ?_⟩
    rw [← renderNat, h]
    exact List.mem_cons_self

theorem parsePositive?_renderNat (n : Nat) : parsePositive? (renderNat n) = some n := by
  obtain ⟨c, s, h, hc⟩ := renderNat_eq_cons n
  have hplus : c ≠ '+' := by rintro rfl; exact absurd hc (by decide)
  rw [← parseNat?_renderNat n, h]
  unfold parsePositive?
  split
  · next heq => exact absurd (List.cons.inj heq).1 hplus
  · rfl

theorem parseInt?_renderInt (n : Int) : parseInt? (renderInt n) = some n := by
  unfold renderInt
  split
  · next h =>
    change (parseNat? (renderNat n.natAbs)).map (fun (k : Nat) => -(k : Int)) = some n
    rw [parseNat?_renderNat, Option.map_some, Option.some.injEq]
    omega
  · next h =>
    obtain ⟨c, s, hs, hc⟩ := renderNat_eq_cons n.natAbs
    have hminus : c ≠ '-' := by rintro rfl; exact absurd hc (by decide)
    have hread := parsePositive?_renderNat n.natAbs
    rw [hs] at hread ⊢
    unfold parseInt?
    split
    · next heq => exact absurd (List.cons.inj heq).1 hminus
    · rw [hread]
      simp only [Option.map_some, Option.some.injEq]
      change (n.natAbs : Int) = n
      omega

end WebMount.Number
