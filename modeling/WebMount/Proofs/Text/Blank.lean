import WebMount.Proofs.Text.Reader

/-!
# Texts without blank ends

A text is **trimmed** if it does not begin or end with a blank character. Such a text is its own
trimmed form (`trim_eq_self`), and trimming makes every text one (`trimmed_trim`). Trimmed texts
that are put together with separators between them are trimmed again. What is stripped off a list
is all at its ends (`exists_strip`), and what is put there is stripped off again (`strip_append`).
-/

namespace WebMount.Text

/-! ### Stripping -/

section Strip

variable {α : Type} {p : α → Bool}

theorem dropWhile_eq_nil {l : List α} (h : ∀ a ∈ l, p a = true) : l.dropWhile p = [] := by
  have happend : (l ++ []).dropWhile p = [].dropWhile p := List.dropWhile_append_of_pos h
  rwa [List.append_nil] at happend

/-- What is put at the ends of a list to be stripped is stripped off. -/
theorem strip_append {first last : List α} (hfirst : ∀ a ∈ first, p a = true)
    (hlast : ∀ a ∈ last, p a = true) (l : List α) : strip p (first ++ l ++ last) = strip p l := by
  rw [strip, List.append_assoc, List.dropWhile_append_of_pos hfirst, List.dropWhile_append]
  split
  · next hnil =>
    rw [List.isEmpty_iff] at hnil
    rw [strip, hnil, dropWhile_eq_nil hlast]
  · have hrev : ∀ a ∈ last.reverse, p a = true := fun a ha => hlast a (List.mem_reverse.mp ha)
    rw [List.reverse_append, List.dropWhile_append_of_pos hrev, strip]

/-- A list is what is left of it when it is stripped, between what is stripped off. -/
theorem exists_strip (p : α → Bool) (l : List α) : ∃ first last, l = first ++ strip p l ++ last ∧
    (∀ a ∈ first, p a = true) ∧ ∀ a ∈ last, p a = true := by
  refine ⟨l.takeWhile p, ((l.dropWhile p).reverse.takeWhile p).reverse, ?_, ?_, ?_⟩
  · rw [strip, List.append_assoc, ← List.reverse_append, List.takeWhile_append_dropWhile,
      List.reverse_reverse, List.takeWhile_append_dropWhile]
  · exact List.all_eq_true.mp List.all_takeWhile
  · intro a ha
    exact List.all_eq_true.mp List.all_takeWhile a (List.mem_reverse.mp ha)

theorem strip_eq_nil_iff {l : List α} : strip p l = [] ↔ ∀ a ∈ l, p a = true := by
  constructor
  · intro h
    obtain ⟨first, last, hl, hfirst, hlast⟩ := exists_strip p l
    rw [h, List.append_nil] at hl
    intro a ha
    rw [hl, List.mem_append] at ha
    exact ha.elim (hfirst a) (hlast a)
  · intro h
    rw [strip, dropWhile_eq_nil h]
    rfl

end Strip

/-! ### Trimmed texts -/

/-- Neither the first nor the last character is blank. -/
structure Trimmed (s : List Char) : Prop where
  first : ∀ c ∈ s.head?, isBlank c = false
  last : ∀ c ∈ s.getLast?, isBlank c = false

theorem trim_eq_self {s : List Char} (h : Trimmed s) : trim s = s :=
  strip_eq_self h.first h.last

/-- Blanks at the ends of a text are trimmed off. -/
theorem trim_append {first last : List Char} (hfirst : ∀ c ∈ first, isBlank c = true)
    (hlast : ∀ c ∈ last, isBlank c = true) (s : List Char) : trim (first ++ s ++ last) = trim s :=
  strip_append hfirst hlast s

theorem mem_of_mem_trim {c : Char} {s : List Char} (h : c ∈ trim s) : c ∈ s := by
  rw [trim, strip, List.mem_reverse] at h
  have hkept := (List.dropWhile_sublist isBlank).subset h
  exact (List.dropWhile_sublist isBlank).subset (List.mem_reverse.mp hkept)

/-- Trimming leaves all characters that are not blank. -/
theorem filter_trim (s : List Char) :
    (trim s).filter (fun c => !isBlank c) = s.filter fun c => !isBlank c := by
  obtain ⟨first, last, hs, hfirst, hlast⟩ := exists_strip isBlank s
  have hnone : ∀ {l : List Char}, (∀ c ∈ l, isBlank c = true) →
      l.filter (fun c => !isBlank c) = [] :=
    fun h => List.filter_eq_nil_iff.mpr fun c hc => by simp [h c hc]
  have hleft := congrArg (List.filter fun c => !isBlank c) hs
  rw [List.filter_append, List.filter_append, hnone hfirst, hnone hlast, List.nil_append,
    List.append_nil] at hleft
  exact hleft.symm

/-- What is left of a text does not begin with a character that was dropped. -/
private theorem head?_dropWhile {p : Char → Bool} {s : List Char} :
    ∀ c ∈ (s.dropWhile p).head?, p c = false := by
  intro c hc
  have hhead := List.head?_dropWhile_not p s
  rwa [hc] at hhead

theorem trimmed_trim (s : List Char) : Trimmed (trim s) := by
  constructor
  · -- the first character was left by the first of the two cuts
    intro c hc
    obtain ⟨dropped, hdropped⟩ := List.dropWhile_suffix isBlank (l := (s.dropWhile isBlank).reverse)
    have hfirst : trim s ++ dropped.reverse = s.dropWhile isBlank := by
      rw [trim, strip, ← List.reverse_append, hdropped, List.reverse_reverse]
    refine head?_dropWhile (s := s) c ?_
    rw [← hfirst, List.head?_append, hc]
    rfl
  · intro c hc
    rw [trim, strip, List.getLast?_reverse] at hc
    exact head?_dropWhile c hc

/-- A digit is not blank. -/
theorem isBlank_of_isDigit {c : Char} (h : c.isDigit = true) : isBlank c = false := by
  have hbounds : 48 ≤ c.toNat ∧ c.toNat ≤ 57 := by
    simp only [Char.isDigit, Bool.and_eq_true, decide_eq_true_eq] at h
    exact h
  simp only [isBlank, blankRanges, List.any_cons, List.any_nil, Bool.or_false,
    Bool.or_eq_false_iff, decide_eq_false_iff_not]
  omega

theorem trimmed_of_forall {s : List Char} (h : ∀ c ∈ s, isBlank c = false) : Trimmed s :=
  ⟨fun c hc => h c (List.mem_of_head? hc), fun c hc => h c (List.mem_of_getLast? hc)⟩

/-- Trimmed texts on both sides of a separator. -/
theorem Trimmed.append {sep : Char} {s t : List Char} (hsep : isBlank sep = false)
    (hs : Trimmed s) (ht : Trimmed t) : Trimmed (s ++ sep :: t) := by
  constructor
  · intro c hc
    cases s with
    | nil =>
      obtain rfl := Option.some.inj hc
      exact hsep
    | cons a s => exact hs.first c hc
  · intro c hc
    rw [List.getLast?_append, List.getLast?_cons, Option.some_or] at hc
    obtain rfl := Option.some.inj hc
    cases hlast : t.getLast? with
    | none => exact hsep
    | some d => exact ht.last d hlast

/-- **Trimmed texts put together are trimmed.** -/
theorem trimmed_intercalate {sep : Char} {pieces : List (List Char)} (hsep : isBlank sep = false)
    (h : ∀ piece ∈ pieces, Trimmed piece) : Trimmed ([sep].intercalate pieces) := by
  induction pieces with
  | nil => exact trimmed_of_forall fun _ hc => absurd hc List.not_mem_nil
  | cons piece pieces ih =>
    have hpiece := h piece List.mem_cons_self
    cases pieces with
    | nil => rwa [List.intercalate_singleton]
    | cons next pieces =>
      rw [List.intercalate_cons_cons, List.append_assoc, List.singleton_append]
      exact hpiece.append hsep (ih fun p hp => h p (List.mem_cons_of_mem _ hp))

end WebMount.Text
