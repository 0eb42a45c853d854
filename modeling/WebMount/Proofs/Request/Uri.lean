import Mathlib.Data.List.TakeDrop
import Mathlib.Data.List.TakeWhile
import WebMount.Proofs.Text.Slice
import WebMount.Request.Uri

/-!
# The path of a URI

The path of a URI is a part of it and holds only the characters that a path may hold
(`isPath_of_parse?`); conversely a text of such characters that begins with a slash is a URI with
itself as its path (`parse?_of_isPath`). Nothing in a path is ever decoded, so no other text is
asked for by any request.
-/

namespace WebMount

/-- A part of a text is not longer than the text. -/
theorem Text.utf8ByteSize_le_of_part {part text : String} (h : part.toList <:+: text.toList) :
    part.utf8ByteSize ≤ text.utf8ByteSize := by
  obtain ⟨before, after, heq⟩ := h
  have htext : text = String.ofList before ++ part ++ String.ofList after := by
    rw [← String.toList_inj, ← heq]
    simp
  rw [htext, String.utf8ByteSize_append, String.utf8ByteSize_append]
  omega

namespace Uri

open WebMount.Text

/-- A text that begins with a slash and is like this can be the path of a URI. -/
def IsPath (text : String) : Prop :=
  text.toList.all isPathChar = true ∧ text.utf8ByteSize ≤ maxLength

instance (text : String) : Decidable (IsPath text) :=
  inferInstanceAs (Decidable (_ ∧ _))

/-! ### What a path is a part of -/

theorem isPath_of_part {path text : String} (hchars : path.toList.all isPathChar = true)
    (hpart : path.toList <:+: text.toList) (hlength : text.utf8ByteSize ≤ maxLength) :
    IsPath path :=
  ⟨hchars, Nat.le_trans (utf8ByteSize_le_of_part hpart) hlength⟩

theorem span_snd_suffix {α : Type} (p : α → Bool) (l : List α) : (l.span p).2 <:+ l := by
  rw [List.span_eq_takeWhile_dropWhile]
  exact List.dropWhile_suffix p

/-- What follows a scheme is the end of the text. -/
theorem suffix_of_takeScheme {s rest : List Char} (h : takeScheme s = some (some rest)) :
    rest <:+ s := by
  unfold takeScheme at h
  dsimp only at h
  split at h
  · next hdrop =>
    obtain ⟨-, hrest⟩ := Option.ite_none_left_eq_some.mp h
    obtain rfl := Option.some.inj (Option.some.inj hrest)
    rw [dropStart?_eq_some] at hdrop
    exact (List.suffix_append _ _).trans (hdrop ▸ List.dropWhile_suffix _)
  · exact nomatch h

theorem path_of_pathAndQuery? {s : List Char} {uri : Target} (h : pathAndQuery? s = some uri) :
    uri.path.toList.all isPathChar = true ∧ uri.path.toList <+: s := by
  simp only [pathAndQuery?, List.span_eq_takeWhile_dropWhile] at h
  have hstart : s.takeWhile (fun c => c != '?' && c != '#') <+: s := List.takeWhile_prefix _
  split at h
  · next hall =>
    split at h
    · obtain ⟨-, huri⟩ := Option.ite_none_right_eq_some.mp h
      rw [← Option.some.inj huri, String.toList_ofList]
      exact ⟨hall, hstart⟩
    · rw [← Option.some.inj h, String.toList_ofList]
      exact ⟨hall, hstart⟩
  · exact nomatch h

/-- **The path of a URI can be the path of a URI.** -/
theorem isPath_of_parse? {text : String} {uri : Target} (h : parse? text = some uri) :
    IsPath uri.path := by
  unfold parse? at h
  dsimp only at h
  split at h
  · exact nomatch h
  · next hlength =>
    have hlength : text.utf8ByteSize ≤ maxLength := Nat.not_lt.mp fun hlt => hlength (.inr hlt)
    split at h
    · obtain rfl := Option.some.inj h
      decide
    split at h
    · obtain ⟨hchars, hstart⟩ := path_of_pathAndQuery? h
      exact isPath_of_part hchars hstart.isInfix hlength
    split at h
    · exact nomatch h
    · obtain ⟨-, huri⟩ := Option.ite_none_right_eq_some.mp h
      obtain rfl := Option.some.inj huri
      decide
    · next rest hscheme =>
      obtain ⟨-, huri⟩ := Option.ite_none_right_eq_some.mp h
      obtain ⟨found, hfound, rfl⟩ := Option.map_eq_some_iff.mp huri
      split
      · exact (by decide : IsPath "/")
      · obtain ⟨hchars, hstart⟩ := path_of_pathAndQuery? hfound
        refine isPath_of_part hchars ?_ hlength
        exact (hstart.isInfix.trans (span_snd_suffix _ rest).isInfix).trans
          (suffix_of_takeScheme hscheme).isInfix

/-- **A text of the characters of paths that begins with a slash is a URI with itself as its path.**
-/
theorem parse?_of_isPath {text : String} (hhead : text.toList.head? = some '/')
    (h : IsPath text) : parse? text = some ⟨text, none⟩ := by
  obtain ⟨hchars, hlength⟩ := h
  have hnil : text.toList ≠ [] := by
    intro hnil
    rw [hnil] at hhead
    exact nomatch hhead
  have hstar : text.toList ≠ ['*'] := by
    intro hstar
    rw [hstar] at hhead
    exact nomatch hhead
  -- neither a query nor a fragment begins in the text
  have hplain : ∀ c ∈ text.toList, (c != '?' && c != '#') = true := by
    intro c hc
    have hchar := List.all_eq_true.mp hchars c hc
    rw [Bool.and_eq_true, bne_iff_ne, bne_iff_ne]
    refine ⟨?_, ?_⟩ <;> rintro rfl <;> exact absurd hchar (by decide)
  have hpath : pathAndQuery? text.toList = some ⟨text, none⟩ := by
    simp only [pathAndQuery?, List.span_eq_takeWhile_dropWhile,
      List.takeWhile_eq_self_iff.mpr hplain, List.dropWhile_eq_nil_iff.mpr hplain, hchars, if_true,
      String.ofList_toList]
  rw [parse?, if_neg (not_or.mpr ⟨hnil, Nat.not_lt.mpr hlength⟩), if_neg hstar, if_pos hhead, hpath]

end Uri

end WebMount
