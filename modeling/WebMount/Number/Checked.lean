/-!
# Sums of machine words

A sum of two machine words wraps around where it does not fit into one, and exactly then it is less
than either of them. A checked sum is told by this comparison.
-/

namespace WebMount.Number

/-- The sum of two machine words, if it is one. -/
def checkedAdd? (a b : UInt64) : Option UInt64 :=
  let sum := a + b
  if sum < a then none else some sum

/-- A checked sum is the sum of the numbers. -/
theorem checkedAdd?_eq_some_iff {a b sum : UInt64} :
    checkedAdd? a b = some sum ↔ a.toNat + b.toNat = sum.toNat := by
  have hsum := UInt64.toNat_add a b
  have ha := a.toNat_lt
  have hb := b.toNat_lt
  have hlt := sum.toNat_lt
  dsimp only [checkedAdd?]
  split
  · next hwrap =>
    rw [UInt64.lt_iff_toNat_lt] at hwrap
    exact iff_of_false (by simp) (by omega)
  · next hstays =>
    rw [UInt64.lt_iff_toNat_lt] at hstays
    rw [Option.some.injEq, ← UInt64.toNat_inj]
    omega

end WebMount.Number
