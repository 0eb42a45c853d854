import WebMount.Text.Blank
import WebMount.Text.LowerCase

/-!
# The lower case of a beginning

Every character is lower-cased by itself but the capital sigma, which looks at the characters around
it. So a beginning of a text is lower-cased to a beginning of the lower-cased text, unless the text
is cut behind a sigma that ends a word only by the cut (`toLowerCase_prefix_iff`). The proof walks
along the beginning: at each place both texts give one piece of the same length, and the pieces
differ only at such a sigma (`meetsCased_append_eq_iff`).
-/

namespace WebMount.Text

/-- A character with the Unicode property `Case_Ignorable`. -/
def isCaseIgnorable (c : Char) : Bool :=
  inRanges c.toNat caseIgnorableRanges

/-! ### Looking for a cased character -/

/-- Case-ignorable characters are looked through. -/
theorem meetsCased_append_of_forall {s : List Char} (h : ∀ c ∈ s, isCaseIgnorable c = true)
    (t : List Char) : meetsCased (s ++ t) = meetsCased t := by
  induction s with
  | nil => rfl
  | cons c s ih =>
    have hc : inRanges c.toNat caseIgnorableRanges = true := h c List.mem_cons_self
    rw [List.cons_append, meetsCased, if_pos hc]
    exact ih fun d hd => h d (List.mem_cons_of_mem c hd)

/-- What follows does not matter behind a character that is not case-ignorable. -/
theorem meetsCased_append_of_mem {s : List Char} {c : Char} (hc : c ∈ s)
    (h : isCaseIgnorable c = false) (t : List Char) : meetsCased (s ++ t) = meetsCased s := by
  induction s with
  | nil => exact absurd hc List.not_mem_nil
  | cons d s ih =>
    rw [List.cons_append, meetsCased, meetsCased]
    rcases List.mem_cons.mp hc with rfl | hc
    · have hstop : inRanges c.toNat caseIgnorableRanges = false := h
      rw [hstop]
      rfl
    · rw [ih hc]

/-- **What follows a text matters exactly if the text is looked through and a cased character comes
behind it.** -/
theorem meetsCased_append_eq_iff (s t : List Char) :
    meetsCased (s ++ t) = meetsCased s ↔
      ¬((∀ c ∈ s, isCaseIgnorable c = true) ∧ meetsCased t = true) := by
  by_cases h : ∀ c ∈ s, isCaseIgnorable c = true
  · have hs : meetsCased s = false := by
      have hnil := meetsCased_append_of_forall h []
      rwa [List.append_nil] at hnil
    rw [meetsCased_append_of_forall h, hs, ← Bool.not_eq_true]
    exact not_congr (and_iff_right h).symm
  · obtain ⟨c, hc, hstop⟩ : ∃ c ∈ s, isCaseIgnorable c = false := by
      simpa using h
    exact iff_of_true (meetsCased_append_of_mem hc hstop t) fun hall => h hall.1

/-- A blank character stands in no word: it is neither looked through nor cased. -/
theorem meetsCased_cons_of_isBlank {c : Char} (h : isBlank c = true) (s : List Char) :
    isCaseIgnorable c = false ∧ meetsCased (c :: s) = false := by
  have htable : (blankRanges.all fun r => (List.range' r.1 (r.2 + 1 - r.1)).all fun n =>
      !inRanges n caseIgnorableRanges && !inRanges n casedRanges) = true := by decide +kernel
  obtain ⟨r, hr, hbounds⟩ := List.any_eq_true.mp h
  obtain ⟨hlow, hhigh⟩ := of_decide_eq_true hbounds
  have hpoint : c.toNat ∈ List.range' r.1 (r.2 + 1 - r.1) := by
    rw [List.mem_range'_1]
    omega
  have hneither := List.all_eq_true.mp (List.all_eq_true.mp htable r hr) _ hpoint
  rw [Bool.and_eq_true, Bool.not_eq_true', Bool.not_eq_true'] at hneither
  obtain ⟨hignorable, hcased⟩ := hneither
  refine ⟨hignorable, ?_⟩
  rw [meetsCased, hignorable, hcased]
  rfl

/-! ### Cuts behind a sigma -/

/-- A text that stands after `before`, given in reverse, is cut behind a capital sigma of which the
word goes on: a cased character stands before the sigma and another one behind the cut, and all
that is between them, but for the sigma, is case-ignorable. -/
def CutsSigma (before s t : List Char) : Prop :=
  ∃ start ignored : List Char, s = start ++ 'Σ' :: ignored ∧
    meetsCased (start.reverse ++ before) = true ∧
    (∀ c ∈ ignored, isCaseIgnorable c = true) ∧ meetsCased t = true

theorem not_cutsSigma_nil (before t : List Char) : ¬CutsSigma before [] t := by
  rintro ⟨start, ignored, h, -⟩
  exact absurd h.symm (by simp)

/-- The sigma is the first character of the text or stands behind it. -/
theorem cutsSigma_cons_iff {before s t : List Char} {c : Char} :
    CutsSigma before (c :: s) t ↔
      (c = 'Σ' ∧ meetsCased before = true ∧ (∀ d ∈ s, isCaseIgnorable d = true) ∧
        meetsCased t = true) ∨ CutsSigma (c :: before) s t := by
  constructor
  · rintro ⟨start, ignored, hs, hbefore, hignored, ht⟩
    cases start with
    | nil =>
      obtain ⟨rfl, rfl⟩ := List.cons.inj hs
      exact .inl ⟨rfl, hbefore, hignored, ht⟩
    | cons d start =>
      obtain ⟨rfl, rfl⟩ := List.cons.inj hs
      rw [List.reverse_cons, List.append_assoc] at hbefore
      exact .inr ⟨start, ignored, rfl, hbefore, hignored, ht⟩
  · rintro (⟨rfl, hbefore, hignored, ht⟩ | ⟨start, ignored, rfl, hbefore, hignored, ht⟩)
    · exact ⟨[], s, rfl, hbefore, hignored, ht⟩
    · refine ⟨c :: start, ignored, rfl, ?_, hignored, ht⟩
      rw [List.reverse_cons, List.append_assoc]
      exact hbefore

/-- A sigma looks the same with more text behind it, unless that goes on with the word. -/
private theorem sigma_eq_iff (cased : Bool) (s t : List Char) :
    (if cased && !meetsCased s then 'ς' else 'σ') =
        (if cased && !meetsCased (s ++ t) then 'ς' else 'σ') ↔
      ¬(cased = true ∧ (∀ d ∈ s, isCaseIgnorable d = true) ∧ meetsCased t = true) := by
  rw [not_and, ← meetsCased_append_eq_iff, eq_comm]
  cases cased <;> cases meetsCased s <;> cases meetsCased (s ++ t) <;> simp

theorem lowerAfter_prefix_iff (before s t : List Char) :
    lowerAfter before s <+: lowerAfter before (s ++ t) ↔ ¬CutsSigma before s t := by
  -- what stands before grows along the text, and both texts have the same before them
  induction s generalizing before with
  | nil => exact iff_of_true List.nil_prefix (not_cutsSigma_nil before t)
  | cons c s ih =>
    rw [List.cons_append, lowerAfter, lowerAfter, cutsSigma_cons_iff, not_or]
    by_cases hc : c = 'Σ'
    · rw [if_pos hc, if_pos hc, List.singleton_append, List.singleton_append,
        List.cons_prefix_cons, ih, sigma_eq_iff, and_iff_right hc]
    · rw [if_neg hc, if_neg hc, List.prefix_append_right_inj, ih]
      exact (and_iff_right fun h => hc h.1).symm

/-- **The lower case of a beginning is a beginning of the lower case**, unless the text is cut
behind a capital sigma of which the word goes on. -/
theorem toLowerCase_prefix_iff (s t : List Char) :
    toLowerCase s <+: toLowerCase (s ++ t) ↔ ¬CutsSigma [] s t :=
  lowerAfter_prefix_iff [] s t

/-- Blank characters behind a text end its last word, whether they stand before or behind a cut. -/
theorem cutsSigma_append_of_isBlank {before s blanks t : List Char}
    (h : ∀ c ∈ blanks, isBlank c = true) :
    CutsSigma before (s ++ blanks) t ↔ CutsSigma before s (blanks ++ t) := by
  cases blanks with
  | nil => rw [List.append_nil, List.nil_append]
  | cons b blanks =>
    have hb := h b List.mem_cons_self
    refine iff_of_false ?_ ?_
    · rintro ⟨start, ignored, hs, -, hignored, -⟩
      -- the last character is blank, so it is neither the sigma nor case-ignorable
      obtain ⟨last, hlast⟩ : ∃ last, (b :: blanks).getLast? = some last :=
        ⟨_, List.getLast?_eq_some_getLast (List.cons_ne_nil b blanks)⟩
      have hblank := h last (List.mem_of_getLast? hlast)
      have hend := congrArg List.getLast? hs
      rw [List.getLast?_append, hlast, List.getLast?_append, Option.some_or,
        List.getLast?_cons, Option.some_or] at hend
      obtain rfl := Option.some.inj hend
      cases hignored? : ignored.getLast? with
      | none =>
        rw [hignored?, Option.getD_none] at hblank
        exact absurd hblank (by decide)
      | some d =>
        rw [hignored?, Option.getD_some] at hblank
        have hd := hignored d (List.mem_of_getLast? hignored?)
        rw [(meetsCased_cons_of_isBlank hblank []).1] at hd
        exact Bool.false_ne_true hd
    · rintro ⟨start, ignored, -, -, -, ht⟩
      rw [List.cons_append, (meetsCased_cons_of_isBlank hb _).2] at ht
      exact Bool.false_ne_true ht

/-- Something is left of every text in lower case. -/
theorem toLowerCase_eq_nil_iff {s : List Char} : toLowerCase s = [] ↔ s = [] := by
  constructor
  · intro h
    cases s with
    | nil => rfl
    | cons c s =>
      rw [toLowerCase, lowerAfter, List.append_eq_nil_iff] at h
      obtain ⟨hc, -⟩ := h
      split at hc
      · exact absurd hc (by simp)
      · rw [lowerChar] at hc
        split at hc
        · exact absurd hc (by simp)
        · split at hc <;> exact absurd hc (by simp)
  · rintro rfl
    rfl

end WebMount.Text
