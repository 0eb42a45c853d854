/-!
# Pairs looked up by key

A list of pairs stands for what is kept by key; the first pair of a key counts. Putting a pair in
takes the place of those that its key had. What a look-up finds afterwards is said by
`lookup_without` and `lookup_put`.
-/

namespace WebMount

variable {α β : Type} [DecidableEq α]

/-- The pairs of other keys. -/
def without (key : α) (l : List (α × β)) : List (α × β) :=
  l.filter fun e => e.1 ≠ key

/-- The pairs with one put in, behind those of other keys. -/
def put (key : α) (value : β) (l : List (α × β)) : List (α × β) :=
  without key l ++ [(key, value)]

theorem lookup_without (key other : α) (l : List (α × β)) :
    (without key l).lookup other = if other = key then none else l.lookup other := by
  unfold without
  induction l with
  | nil => simp
  | cons e l ih =>
    obtain ⟨a, b⟩ := e
    by_cases ha : a = key
    · subst ha
      rw [List.filter_cons_of_neg (by simp), ih]
      split
      · rfl
      · next hk => rw [List.lookup_cons, beq_false_of_ne hk]
    · rw [List.filter_cons_of_pos (by simpa using ha), List.lookup_cons, List.lookup_cons, ih]
      by_cases hk : other = a
      · subst hk
        simp [ha]
      · simp [beq_false_of_ne hk]

theorem lookup_put (key other : α) (value : β) (l : List (α × β)) :
    (put key value l).lookup other = if other = key then some value else l.lookup other := by
  rw [put, List.lookup_append, lookup_without]
  split
  · next h => simp [h]
  · next h => simp [List.lookup_cons, beq_false_of_ne h]

end WebMount
