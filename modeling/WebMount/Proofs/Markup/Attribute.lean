import WebMount.Markup.Attribute
import WebMount.Proofs.Markup.Escape
import WebMount.Proofs.Text.Slice

/-!
# Attributes are read back

An attribute whose value was escaped is read as the value (`attribute?_escape`): the name is found
where it is written, and the escaped value holds no quote that could end it early.
-/

namespace WebMount.Markup

open WebMount.Text

private theorem length_le_of_behind? {part l rest : List Char} (h : behind? part l = some rest) :
    part.length ≤ l.length := by
  induction l with
  | nil =>
    rw [behind?] at h
    split at h
    · next hpart =>
      subst hpart
      exact Nat.le_refl _
    · exact absurd h (by simp)
  | cons c s ih =>
    rw [behind?] at h
    split at h
    · next hdrop =>
      have hlength := congrArg List.length (dropStart?_eq_some.mp hdrop)
      rw [List.length_append] at hlength
      omega
    · exact Nat.le_succ_of_le (ih h)

/-- What is found in a text is found at the same place where more text follows. -/
theorem behind?_append {part l rest : List Char} (h : behind? part l = some rest)
    (more : List Char) : behind? part (l ++ more) = some (rest ++ more) := by
  induction l with
  | nil =>
    rw [behind?] at h
    split at h
    · next hpart =>
      obtain rfl := Option.some.inj h
      cases more <;> simp [behind?, hpart, dropStart?]
    · exact absurd h (by simp)
  | cons c s ih =>
    rw [behind?] at h
    rw [List.cons_append, behind?]
    split at h
    · next found hdrop =>
      obtain rfl := Option.some.inj h
      have hmore : c :: (s ++ more) = part ++ (found ++ more) := by
        rw [← List.cons_append, dropStart?_eq_some.mp hdrop, List.append_assoc]
      rw [hmore, dropStart?_append]
    · next hdrop =>
      -- the part would have to reach into what follows, but it fits into the text
      have hnone : dropStart? part (c :: (s ++ more)) = none := by
        rw [Option.eq_none_iff_forall_ne_some]
        intro tail htail
        have hlength : part.length ≤ (c :: s).length := Nat.le_succ_of_le (length_le_of_behind? h)
        have hprefix : part <+: c :: s :=
          List.prefix_of_prefix_length_le ⟨tail, (dropStart?_eq_some.mp htail).symm⟩
            (List.prefix_append (c :: s) more) hlength
        obtain ⟨tail', htail'⟩ := hprefix
        rw [← htail', dropStart?_append] at hdrop
        exact absurd hdrop (by simp)
      rw [hnone]
      exact ih h

/-- **An escaped value is read as the value.** -/
theorem attribute?_escape {name opening : String}
    (h : behind? (' ' :: name.toList ++ ['=', '"']) opening.toList = some [])
    (value closing : String) :
    attribute? name (opening ++ escape value ++ ("\"" ++ closing)) = some value := by
  have hquote : '"' ∉ (escape value).toList := not_mem_escape (by decide) value
  have hmark : "\"".toList = ['"'] := rfl
  rw [attribute?, String.append_assoc, String.toList_append, behind?_append h, List.nil_append,
    String.toList_append, String.toList_append, hmark]
  simp only [List.singleton_append, Option.bind_eq_bind, Option.bind_some,
    splitFirst?_append _ hquote, unescape?_escape, String.ofList_toList, Option.pure_def]

end WebMount.Markup
