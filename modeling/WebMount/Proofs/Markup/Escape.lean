import WebMount.Markup.Escape
import WebMount.Xml.Entity

/-!
# Escaped text is read back

Text that is put into markup is nothing but text there (`isInert_escape`), and a reader that
replaces references reads exactly the text (`unescape?_escape`). Every character is escaped by
itself, and an escaped character is itself or a reference that is read as it
(`unescapeFrom?_reference`).
-/

namespace WebMount.Markup

open WebMount.Xml

/-- The name of a reference is collected up to the semicolon behind it. -/
private theorem unescapeFrom?_name {name : List Char} (hname : '&' ∉ name ∧ ';' ∉ name)
    (opened s : List Char) : unescapeFrom? (some opened) (name ++ ';' :: s) =
      unescapeFrom? (some (name.reverse ++ opened)) (';' :: s) := by
  induction name generalizing opened with
  | nil => rfl
  | cons c name ih =>
    simp only [List.mem_cons, not_or] at hname
    obtain ⟨⟨hand, hname⟩, hsemicolon, hname'⟩ := hname
    rw [List.cons_append, unescapeFrom?, if_neg (Ne.symm hand), if_neg (Ne.symm hsemicolon),
      ih ⟨hname, hname'⟩, List.reverse_cons, List.append_assoc, List.singleton_append]

/-- A reference is read as the character that it denotes. -/
theorem unescapeFrom?_reference (name : List Char) {c : Char} (hname : '&' ∉ name ∧ ';' ∉ name)
    (hc : referenced? name = some c) (s : List Char) :
    unescapeFrom? none ('&' :: (name ++ ';' :: s)) = (unescapeFrom? none s).map (c :: ·) := by
  rw [unescapeFrom?, if_pos rfl, unescapeFrom?_name hname, List.append_nil, unescapeFrom?,
    if_neg (by decide), if_pos rfl, List.reverse_reverse, hc]
  cases unescapeFrom? none s <;> rfl

/-- An escaped character is read as the character. -/
theorem unescapeFrom?_escapeChar (c : Char) (s : List Char) :
    unescapeFrom? none (escapeChar c ++ s) = (unescapeFrom? none s).map (c :: ·) := by
  unfold escapeChar
  split
  · exact unescapeFrom?_reference ['a', 'm', 'p'] (by decide) rfl s
  · exact unescapeFrom?_reference ['l', 't'] (by decide) rfl s
  · exact unescapeFrom?_reference ['g', 't'] (by decide) rfl s
  · exact unescapeFrom?_reference ['q', 'u', 'o', 't'] (by decide) rfl s
  · exact unescapeFrom?_reference ['#', '3', '9'] (by decide) (by decide) s
  · next hand _ _ _ _ => rw [List.singleton_append, unescapeFrom?, if_neg hand]

/-- **Escaped text is read as the text.** -/
theorem unescape?_escape (text : String) :
    unescape? (escape text).toList = some text.toList := by
  rw [escape, String.toList_ofList, unescape?]
  induction text.toList with
  | nil => rfl
  | cons c s ih =>
    rw [List.flatMap_cons, unescapeFrom?_escapeChar, ih]
    rfl

/-! ### Text without markup -/

/-- The references that stand for the characters that mean something in markup. -/
def references : List String :=
  ["&amp;", "&lt;", "&gt;", "&quot;", "&#39;"]

/-- Text that is nothing but text inside markup: it ends no tag and no quoted attribute, and each
`&` in it begins a reference to one of the characters that mean something in markup. -/
structure IsInert (text : String) : Prop where
  not_mem : ∀ c ∈ ['<', '>', '"', '\''], c ∉ text.toList
  reference : ∀ before after, text.toList = before ++ '&' :: after →
    ∃ reference ∈ references, reference.toList <+: '&' :: after

/-- A character that means nothing in markup stands for itself. -/
theorem escapeChar_eq_self {c : Char} (h : c ∉ ['&', '<', '>', '"', '\'']) :
    escapeChar c = [c] := by
  unfold escapeChar
  split <;> simp_all

/-- Escaped text holds none of the characters that mean something in markup, but the one that
begins a reference. -/
theorem not_mem_escape {c : Char} (hc : c ∈ ['<', '>', '"', '\'']) (text : String) :
    c ∉ (escape text).toList := by
  rw [escape, String.toList_ofList, List.mem_flatMap]
  rintro ⟨d, -, hmem⟩
  have hmarks : (['<', '>', '"', '\''].all fun c => ['&', '<', '>', '"', '\''].all fun d =>
      !(escapeChar d).contains c) = true := by decide
  by_cases hd : d ∈ ['&', '<', '>', '"', '\'']
  · have hfree := List.all_eq_true.mp (List.all_eq_true.mp hmarks c hc) d hd
    exact absurd hmem (by simpa using hfree)
  · rw [escapeChar_eq_self hd, List.mem_singleton] at hmem
    rw [← hmem] at hd
    exact hd (List.mem_cons_of_mem _ hc)

/-- An escaped character with a `&` in it is a reference, which begins there. -/
theorem escapeChar_eq_append {c : Char} {before after : List Char}
    (h : escapeChar c = before ++ '&' :: after) :
    before = [] ∧ ∃ reference ∈ references, reference.toList = '&' :: after := by
  have hmarks : (['&', '<', '>', '"', '\''].all fun c => !(escapeChar c).tail.contains '&' &&
      references.any fun reference => reference.toList == escapeChar c) = true := by decide
  by_cases hc : c ∈ ['&', '<', '>', '"', '\'']
  · obtain ⟨htail, reference, hmem, hreference⟩ : '&' ∉ (escapeChar c).tail ∧
        ∃ reference ∈ references, reference.toList = escapeChar c := by
      simpa using List.all_eq_true.mp hmarks c hc
    rw [h] at htail hreference
    cases before with
    | nil => exact ⟨rfl, reference, hmem, hreference⟩
    | cons b before => exact absurd (List.mem_append_right before List.mem_cons_self) htail
  · rw [escapeChar_eq_self hc] at h
    obtain ⟨-, hand⟩ | ⟨-, hnil⟩ := List.append_eq_singleton_iff.mp h.symm
    · obtain ⟨rfl, -⟩ := List.cons.inj hand
      exact absurd List.mem_cons_self hc
    · exact absurd hnil (by simp)

/-- **Escaped text is nothing but text.** -/
theorem isInert_escape (text : String) : IsInert (escape text) where
  not_mem _ hc := not_mem_escape hc text
  reference := by
    rw [escape, String.toList_ofList]
    induction text.toList with
    | nil => exact fun before after h => absurd h.symm (by simp)
    | cons c s ih =>
      intro before after h
      rw [List.flatMap_cons] at h
      -- the `&` stands in what the first character becomes, or behind it
      obtain ⟨behind, rfl, hs⟩ | ⟨inside, hc, hafter⟩ := List.append_eq_append_iff.mp h
      · exact ih behind after hs
      · cases inside with
        | nil => exact ih [] after hafter.symm
        | cons d inside =>
          obtain ⟨rfl, rfl⟩ := List.cons.inj hafter
          obtain ⟨-, reference, hmem, hreference⟩ := escapeChar_eq_append hc
          have hprefix := List.prefix_append ('&' :: inside) (s.flatMap escapeChar)
          exact ⟨reference, hmem, hreference.symm ▸ hprefix⟩

end WebMount.Markup
