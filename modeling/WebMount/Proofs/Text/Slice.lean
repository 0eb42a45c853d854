import WebMount.Text.Slice

/-!
# What cutting a list finds

A cut is told by its parts: the first part does not hold the separator, and the parts put together
are the list (`splitFirst?_eq_some_iff`). All pieces of a list are free of the separator, and pieces
that are free of it are found again when they are put together (`splitAll_intercalate`). Two lists
put together are cut as each of them is, but for the two pieces that meet
(`splitAll_append_of_meet`). A list that begins with another one loses exactly that beginning
(`dropStart?_append`).
-/

namespace WebMount.Text

variable {α : Type} [DecidableEq α]

theorem dropStart?_append (start rest : List α) : dropStart? start (start ++ rest) = some rest :=
  dropStart?_eq_some.mpr rfl

theorem isSome_dropStart?_iff {start l : List α} :
    (dropStart? start l).isSome = true ↔ start <+: l := by
  rw [Option.isSome_iff_exists]
  exact exists_congr fun rest => dropStart?_eq_some.trans eq_comm

theorem occursIn_iff {part l : List α} : occursIn part l = true ↔ part <:+: l := by
  induction l with
  | nil => rw [occursIn, List.isEmpty_iff, List.infix_nil]
  | cons a l ih =>
    rw [occursIn, Bool.or_eq_true, isSome_dropStart?_iff, ih, List.infix_cons_iff]

/-! ### The first separator -/

theorem splitFirst?_append {sep : α} {before : List α} (after : List α) (h : sep ∉ before) :
    splitFirst? sep (before ++ sep :: after) = some (before, after) := by
  induction before with
  | nil => simp [splitFirst?]
  | cons a before ih =>
    rw [List.mem_cons, not_or] at h
    obtain ⟨ha, hbefore⟩ := h
    rw [List.cons_append, splitFirst?, if_neg (Ne.symm ha), ih hbefore, Option.map_some]

/-- A list is cut at the first separator. -/
theorem splitFirst?_eq_some_iff {sep : α} {l before after : List α} :
    splitFirst? sep l = some (before, after) ↔ l = before ++ sep :: after ∧ sep ∉ before := by
  constructor
  · exact splitFirst?_eq_some
  · rintro ⟨rfl, h⟩
    exact splitFirst?_append after h

/-- Of a list without the separator nothing is cut off. -/
theorem upTo_eq_self {sep : α} {l : List α} (h : sep ∉ l) : upTo sep l = l := by
  have hall : ∀ a ∈ l, decide (a ≠ sep) = true := by
    rintro a ha
    refine decide_eq_true ?_
    rintro rfl
    exact h ha
  have hkeep : (l ++ []).takeWhile (fun a => decide (a ≠ sep)) = l ++ [].takeWhile _ :=
    List.takeWhile_append_of_pos hall
  rwa [List.append_nil, List.takeWhile_nil, List.append_nil] at hkeep

/-- What stands before the first separator does not hold it. -/
theorem not_mem_upTo (sep : α) (l : List α) : sep ∉ upTo sep l := by
  intro hmem
  have hall := List.all_eq_true.mp (List.all_takeWhile (p := fun a => decide (a ≠ sep)) (l := l))
  exact absurd rfl (of_decide_eq_true (hall sep hmem))

/-! ### All separators -/

theorem splitAll_of_not_mem {sep : α} {l : List α} (h : sep ∉ l) : splitAll sep l = [l] := by
  induction l with
  | nil => rfl
  | cons a l ih =>
    rw [List.mem_cons, not_or] at h
    obtain ⟨ha, hl⟩ := h
    rw [splitAll, if_neg (Ne.symm ha), ih hl]

theorem splitAll_append {sep : α} {piece : List α} (l : List α) (h : sep ∉ piece) :
    splitAll sep (piece ++ sep :: l) = piece :: splitAll sep l := by
  induction piece with
  | nil => simp [splitAll]
  | cons a piece ih =>
    rw [List.mem_cons, not_or] at h
    obtain ⟨ha, hpiece⟩ := h
    rw [List.cons_append, splitAll, if_neg (Ne.symm ha), ih hpiece]

/-- **Two lists put together are cut as each of them is**, but for the last piece of the one and the
first piece of the other, which meet. -/
theorem splitAll_append_of_meet {sep : α} {l m last next : List α} {first rest : List (List α)}
    (hl : splitAll sep l = first ++ [last]) (hm : splitAll sep m = next :: rest) :
    splitAll sep (l ++ m) = first ++ (last ++ next) :: rest := by
  induction l generalizing first last with
  | nil =>
    obtain ⟨rfl, rfl⟩ : first = [] ∧ last = [] := by
      rw [splitAll, List.singleton_eq_append_iff] at hl
      simpa using hl
    exact hm
  | cons a l ih =>
    obtain ⟨piece, pieces, hsplit⟩ := List.exists_cons_of_ne_nil (splitAll_ne_nil sep l)
    rw [splitAll, hsplit] at hl
    rw [List.cons_append, splitAll]
    split at hl
    · -- the first piece ends at once, so the last one belongs to the rest of the list
      next ha =>
      rw [if_pos ha]
      cases first with
      | nil => exact absurd (List.cons.inj hl).2 (List.cons_ne_nil _ _)
      | cons p first =>
        obtain ⟨rfl, htail⟩ := List.cons.inj hl
        rw [ih (hsplit.trans htail), List.cons_append]
    · next ha =>
      rw [if_neg ha]
      cases first with
      | nil =>
        obtain ⟨rfl, rfl⟩ := List.cons.inj hl
        have hone : splitAll sep l = [] ++ [piece] := hsplit
        rw [ih hone]
        rfl
      | cons p first =>
        obtain ⟨rfl, rfl⟩ := List.cons.inj hl
        have hmore : splitAll sep l = (piece :: first) ++ [last] := hsplit
        rw [ih hmore]
        rfl

theorem exists_splitAll_last (sep : α) (l : List α) : ∃ first last,
    splitAll sep l = first ++ [last] :=
  ⟨_, _, (List.dropLast_concat_getLast (splitAll_ne_nil sep l)).symm⟩

/-- The first piece begins as the list does, unless that begins with the separator. -/
theorem first_of_splitAll_cons {sep a : α} {l next : List α} {rest : List (List α)}
    (h : splitAll sep (a :: l) = next :: rest) :
    (a = sep ∧ next = []) ∨ (a ≠ sep ∧ a ∈ next.head?) := by
  obtain ⟨piece, pieces, hl⟩ := List.exists_cons_of_ne_nil (splitAll_ne_nil sep l)
  rw [splitAll, hl] at h
  split at h
  · next ha => exact .inl ⟨ha, (List.cons.inj h).1.symm⟩
  · next ha => exact .inr ⟨ha, by rw [← (List.cons.inj h).1]; rfl⟩

/-- The last piece ends as the list does, unless that ends with the separator. -/
theorem last_of_splitAll_concat {sep a : α} {l last : List α} {first : List (List α)}
    (h : splitAll sep (l ++ [a]) = first ++ [last]) :
    (a = sep ∧ last = []) ∨ (a ≠ sep ∧ a ∈ last.getLast?) := by
  obtain ⟨before, piece, hl⟩ := exists_splitAll_last sep l
  by_cases ha : a = sep
  · have hone : splitAll sep [a] = [] :: [[]] := by simp [splitAll, ha]
    rw [splitAll_append_of_meet hl hone, List.append_cons] at h
    exact .inl ⟨ha, (List.singleton_inj.mp (List.append_inj' h rfl).2).symm⟩
  · have hone : splitAll sep [a] = [a] :: [] := by simp [splitAll, ha]
    rw [splitAll_append_of_meet hl hone] at h
    rw [← List.singleton_inj.mp (List.append_inj' h rfl).2]
    exact .inr ⟨ha, by simp⟩

/-- **Pieces that are put together are found again.** -/
theorem splitAll_intercalate {sep : α} {pieces : List (List α)} (hne : pieces ≠ [])
    (h : ∀ piece ∈ pieces, sep ∉ piece) : splitAll sep ([sep].intercalate pieces) = pieces := by
  induction pieces with
  | nil => exact absurd rfl hne
  | cons piece pieces ih =>
    have hpiece : sep ∉ piece := h piece List.mem_cons_self
    cases pieces with
    | nil =>
      rw [List.intercalate_singleton]
      exact splitAll_of_not_mem hpiece
    | cons next pieces =>
      have hrest := ih (List.cons_ne_nil next pieces) fun p hp => h p (List.mem_cons_of_mem _ hp)
      rw [List.intercalate_cons_cons, List.append_assoc, List.singleton_append,
        splitAll_append _ hpiece, hrest]

/-- Nothing is lost between the pieces. -/
theorem intercalate_splitAll (sep : α) (l : List α) : [sep].intercalate (splitAll sep l) = l := by
  induction l with
  | nil => rfl
  | cons a l ih =>
    obtain ⟨piece, pieces, hsplit⟩ := List.exists_cons_of_ne_nil (splitAll_ne_nil sep l)
    rw [hsplit] at ih
    rw [splitAll]
    split
    · next ha =>
      rw [hsplit, List.intercalate_cons_cons, ih, ha]
      rfl
    · rw [hsplit]
      cases pieces with
      | nil =>
        rw [List.intercalate_singleton] at ih ⊢
        rw [ih]
      | cons next pieces =>
        rw [List.intercalate_cons_cons] at ih ⊢
        rw [List.cons_append, List.cons_append, ih]

omit [DecidableEq α] in
/-- What stands in pieces that are put together is the separator or stands in a piece. -/
theorem mem_intercalate {sep a : α} {pieces : List (List α)}
    (h : a ∈ [sep].intercalate pieces) : a = sep ∨ ∃ piece ∈ pieces, a ∈ piece := by
  induction pieces with
  | nil => exact absurd h List.not_mem_nil
  | cons piece pieces ih =>
    cases pieces with
    | nil =>
      rw [List.intercalate_singleton] at h
      exact .inr ⟨piece, List.mem_cons_self, h⟩
    | cons next pieces =>
      rw [List.intercalate_cons_cons, List.mem_append, List.mem_append, List.mem_singleton] at h
      rcases h with (hpiece | hsep) | hrest
      · exact .inr ⟨piece, List.mem_cons_self, hpiece⟩
      · exact .inl hsep
      · exact (ih hrest).imp_right fun ⟨p, hp, ha⟩ => ⟨p, List.mem_cons_of_mem _ hp, ha⟩

/-- No piece holds the separator. -/
theorem not_mem_of_mem_splitAll {sep : α} {l piece : List α} (h : piece ∈ splitAll sep l) :
    sep ∉ piece := by
  induction l generalizing piece with
  | nil =>
    rw [splitAll, List.mem_singleton] at h
    rw [h]
    exact List.not_mem_nil
  | cons a l ih =>
    rw [splitAll] at h
    split at h
    · rcases List.mem_cons.mp h with rfl | hl
      · exact List.not_mem_nil
      · exact ih hl
    · next ha =>
      split at h
      · next hnil => exact absurd hnil (splitAll_ne_nil sep l)
      · next first others hsplit =>
        rw [hsplit] at ih
        rcases List.mem_cons.mp h with rfl | hothers
        · rw [List.mem_cons, not_or]
          exact ⟨Ne.symm ha, ih List.mem_cons_self⟩
        · exact ih (List.mem_cons_of_mem _ hothers)

/-- What a piece holds is in the list. -/
theorem mem_of_mem_splitAll {sep a : α} {l piece : List α} (h : piece ∈ splitAll sep l)
    (ha : a ∈ piece) : a ∈ l := by
  induction l generalizing piece with
  | nil =>
    rw [splitAll, List.mem_singleton] at h
    rwa [h] at ha
  | cons b l ih =>
    rw [splitAll] at h
    split at h
    · rcases List.mem_cons.mp h with rfl | hl
      · exact absurd ha List.not_mem_nil
      · exact List.mem_cons_of_mem b (ih hl ha)
    · split at h
      · next hnil => exact absurd hnil (splitAll_ne_nil sep l)
      · next first others hsplit =>
        rw [hsplit] at ih
        rcases List.mem_cons.mp h with rfl | hothers
        · rcases List.mem_cons.mp ha with rfl | hfirst
          · exact List.mem_cons_self
          · exact List.mem_cons_of_mem b (ih List.mem_cons_self hfirst)
        · exact List.mem_cons_of_mem b (ih (List.mem_cons_of_mem _ hothers) ha)

end WebMount.Text
