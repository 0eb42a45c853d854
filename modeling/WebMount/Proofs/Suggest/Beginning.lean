import WebMount.Proofs.Text.Blank
import WebMount.Proofs.Text.LowerCase
import WebMount.Proofs.Text.Slice
import WebMount.Suggest.Source

/-!
# Choices are offered for their beginnings

Of fixed choices those are offered whose lower case begins with that of what was typed, blanks
around it disregarded (`mem_suggestions_iff`). What is typed of a choice from its front is a
beginning of it, and so is its lower case, with one exception: a capital sigma behind which the
typed text ends looks final there, though the word goes on in the choice. For these beginnings, and
for no others, a choice is not offered (`offered_iff_not_cutsSigma`).
-/

namespace WebMount.SuggestionSource

open WebMount.Text

/-- If the limit leaves room for all of them, the choices that begin with the typed text are
offered. -/
theorem mem_suggestions_iff {choices : List String} {limit : Nat} {typed choice : String}
    (hlimit : choices.length ≤ limit) (htyped : isAllBlank typed = false) :
    choice ∈ (fixed choices limit).suggestions typed ↔
      choice ∈ choices ∧ toLowerCase (trim typed.toList) <+: toLowerCase choice.toList := by
  have hne : toLowerCase (trim typed.toList) ≠ [] := by
    rw [Ne, toLowerCase_eq_nil_iff, trim, strip_eq_nil_iff, ← List.all_eq_true]
    exact Bool.eq_false_iff.mp htyped
  have hall : ∀ l : List Char, (choices.filter (offers l)).take limit =
      choices.filter (offers l) := fun l =>
    List.take_of_length_le (Nat.le_trans (List.length_filter_le _ _) hlimit)
  rw [suggestions]
  split
  · next hnil => exact absurd hnil hne
  · rw [hall, List.mem_filter, offers, isSome_dropStart?_iff]

/-- A text that does not begin with a blank is trimmed at its end only. -/
theorem exists_trim {s : List Char} (h : ∀ c ∈ s.head?, isBlank c = false) :
    ∃ blanks, s = trim s ++ blanks ∧ ∀ c ∈ blanks, isBlank c = true := by
  obtain ⟨first, last, hs, hfirst, hlast⟩ := exists_strip isBlank s
  cases first with
  | nil => exact ⟨last, hs, hlast⟩
  | cons c first =>
    have hhead : s.head? = some c := by rw [hs]; rfl
    have hc := hfirst c List.mem_cons_self
    rw [h c hhead] at hc
    exact absurd hc Bool.false_ne_true

/-- **A choice is offered for what is typed of it**, whatever it is written in and wherever it is
cut, unless the cut is behind a capital sigma of which the word goes on; then it is not offered. The
choice must not begin with a blank, and what is typed must hold more than blanks. -/
theorem offered_iff_not_cutsSigma {choices : List String} {limit : Nat}
    (hlimit : choices.length ≤ limit) {choice typed rest : String} (hchoice : choice ∈ choices)
    (hfirst : ∀ c ∈ choice.toList.head?, isBlank c = false) (hcut : choice = typed ++ rest)
    (htyped : isAllBlank typed = false) :
    choice ∈ (fixed choices limit).suggestions typed ↔
      ¬CutsSigma [] typed.toList rest.toList := by
  have hlist : choice.toList = typed.toList ++ rest.toList := by
    rw [hcut, String.toList_append]
  have hhead : ∀ c ∈ typed.toList.head?, isBlank c = false := by
    intro c hc
    refine hfirst c ?_
    rw [hlist, List.head?_append, hc]
    rfl
  obtain ⟨blanks, htrim, hblanks⟩ := exists_trim hhead
  rw [mem_suggestions_iff hlimit htyped, and_iff_right hchoice, hlist]
  generalize trim typed.toList = word at htrim
  rw [htrim, List.append_assoc, toLowerCase_prefix_iff, cutsSigma_append_of_isBlank hblanks]

/-- What was typed ends with a blank behind a final sigma. -/
theorem offered_iff_not_cutsSigma_district :
    "ΝΕΟΣ ΚΟΣΜΟΣ" ∈ (fixed ["Άνω Πόλη", "ΝΕΟΣ ΚΟΣΜΟΣ"] 2).suggestions "ΝΕΟΣ " := by
  have hcut : ¬CutsSigma [] "ΝΕΟΣ ".toList "ΚΟΣΜΟΣ".toList := by
    rw [← toLowerCase_prefix_iff, ← isSome_dropStart?_iff]
    decide +kernel
  refine (offered_iff_not_cutsSigma (by decide) (by decide) (fun c hc => ?_) (by decide)
    (by decide)).mpr hcut
  obtain rfl := Option.some.inj hc
  decide

/-- A name of a city is not offered for its first three letters, of which the last is a sigma. -/
theorem not_offered_behind_sigma :
    let choices := ["ΘΕΣΣΑΛΟΝΙΚΗ"]
    choices.length ≤ 1 ∧ "ΘΕΣΣΑΛΟΝΙΚΗ" ∈ choices ∧
      (∀ c ∈ "ΘΕΣΣΑΛΟΝΙΚΗ".toList.head?, isBlank c = false) ∧
      "ΘΕΣΣΑΛΟΝΙΚΗ" = "ΘΕΣ" ++ "ΣΑΛΟΝΙΚΗ" ∧ isAllBlank "ΘΕΣ" = false ∧
      "ΘΕΣΣΑΛΟΝΙΚΗ" ∉ (fixed choices 1).suggestions "ΘΕΣ" := by
  refine ⟨by decide, by decide, fun c hc => ?_, by decide, by decide, by decide +kernel⟩
  obtain rfl := Option.some.inj hc
  decide

end WebMount.SuggestionSource
