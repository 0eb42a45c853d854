/-!
# Cutting lists

A list is cut at the first occurrence of an element, or freed of a given beginning or end. The
laws say that nothing is lost: what was cut and the cut put together are the list again.
-/

namespace WebMount.Text

variable {α : Type} [DecidableEq α]

/-- What stands before the first `sep`, and what stands after it. -/
def splitFirst? (sep : α) : List α → Option (List α × List α)
  | [] => none
  | a :: l =>
    if a = sep then some ([], l)
    else (splitFirst? sep l).map fun (before, after) => (a :: before, after)

/-- What stands before the first `sep`, or the whole list. -/
def upTo (sep : α) (l : List α) : List α :=
  l.takeWhile (· ≠ sep)

/-- All pieces between the occurrences of `sep`; at least one, possibly empty. -/
def splitAll (sep : α) : List α → List (List α)
  | [] => [[]]
  | a :: l =>
    if a = sep then [] :: splitAll sep l
    else
      match splitAll sep l with
      | [] => [[a]]
      | piece :: pieces => (a :: piece) :: pieces

/-- What follows `start` in a list that begins with it. -/
def dropStart? : (start l : List α) → Option (List α)
  | [], l => some l
  | _ :: _, [] => none
  | a :: start, b :: l => if a = b then dropStart? start l else none

/-- What precedes `tail` in a list that ends with it. -/
def dropEnd? (tail l : List α) : Option (List α) :=
  (dropStart? tail.reverse l.reverse).map List.reverse

/-- Whether `part` stands somewhere in the list. -/
def occursIn (part : List α) : List α → Bool
  | [] => part.isEmpty
  | a :: l => (dropStart? part (a :: l)).isSome || occursIn part l

theorem splitFirst?_eq_some {sep : α} {l before after : List α}
    (h : splitFirst? sep l = some (before, after)) : l = before ++ sep :: after ∧ sep ∉ before := by
  induction l generalizing before with
  | nil => simp [splitFirst?] at h
  | cons a l ih =>
    simp only [splitFirst?] at h
    split at h
    · next ha => simp_all
    · next ha =>
      obtain ⟨⟨b, c⟩, hbc, heq⟩ := Option.map_eq_some_iff.1 h
      obtain ⟨rfl, rfl⟩ := Prod.mk.injEq .. ▸ heq
      obtain ⟨rfl, hb⟩ := ih hbc
      simp [hb, Ne.symm ha]

theorem splitFirst?_eq_none {sep : α} {l : List α} : splitFirst? sep l = none ↔ sep ∉ l := by
  induction l with
  | nil => simp [splitFirst?]
  | cons a l ih =>
    by_cases ha : a = sep
    · simp [splitFirst?, ha]
    · simp [splitFirst?, ha, ih, Ne.symm ha]

theorem dropStart?_eq_some {start l rest : List α} :
    dropStart? start l = some rest ↔ l = start ++ rest := by
  induction start generalizing l with
  | nil => simp [dropStart?, eq_comm]
  | cons a start ih =>
    cases l with
    | nil => simp [dropStart?]
    | cons b l =>
      by_cases h : a = b
      · simp [dropStart?, h, ih]
      · simp [dropStart?, h, Ne.symm h]

theorem dropEnd?_eq_some {tail l rest : List α} :
    dropEnd? tail l = some rest ↔ l = rest ++ tail := by
  simp only [dropEnd?, Option.map_eq_some_iff, dropStart?_eq_some]
  constructor
  · rintro ⟨r, h, rfl⟩
    simpa using congrArg List.reverse h
  · rintro rfl
    exact ⟨rest.reverse, by simp⟩

theorem splitAll_ne_nil (sep : α) (l : List α) : splitAll sep l ≠ [] := by
  cases l with
  | nil => simp [splitAll]
  | cons a l =>
    by_cases h : a = sep
    · simp [splitAll, h]
    · rw [splitAll, if_neg h]
      split <;> simp

end WebMount.Text
