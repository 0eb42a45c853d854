import WebMount.Proofs.Mount.Declaration
import WebMount.Proofs.Xml.Content

/-!
# Patterns as they are written

The text of character data is what the data stands for, trimmed (`textOf?_eq`). Of the pieces of
character data in a field at most one is read, and it is read as all of them together are
(`texts_eq_readText`). So an orderly descriptor declares what is read of the patterns that are
written in it (`declared_eq`), and a descriptor with one pattern gives the filter path of that
pattern, or none where the pattern stands for none (`filterPath_of_declaresOnly`).
-/

namespace WebMount.Mount.Descriptor

open WebMount.Xml WebMount.Text

variable {kind : MappingKind} {name : String}

/-! ### What is read of character data -/

theorem textOf?_eq (content : Bytes) :
    textOf? content = ((charactersOf? content).map trim).map String.ofList := by
  rw [textOf?, charactersOf?]
  cases Utf8.decode? content with
  | none => rfl
  | some decoded =>
    simp only [Option.bind_eq_bind, Option.bind_some]
    cases unescape? decoded <;> rfl

/-- Spaces at the ends of character data make no difference to its text. -/
theorem textOf?_strip (content : Bytes) : textOf? (strip isSpace content) = textOf? content := by
  rw [textOf?_eq, textOf?_eq, map_trim_charactersOf?_strip]

theorem readText_eq_nil_iff {content : Bytes} :
    Forest.readText content = [] ↔ ∀ b ∈ content, isSpace b = true := by
  rw [← strip_eq_nil_iff, Forest.readText]
  split
  · next h => exact iff_of_true rfl h
  · next h => exact iff_of_false (List.cons_ne_nil _ _) h

/-- Spaces around character data are not read. -/
theorem readText_append {first last : Bytes} (hfirst : ∀ b ∈ first, isSpace b = true)
    (hlast : ∀ b ∈ last, isSpace b = true) (content : Bytes) :
    Forest.readText (first ++ content ++ last) = Forest.readText content := by
  rw [Forest.readText, Forest.readText, strip_append hfirst hlast]

theorem readings_append {first last : Bytes} (hfirst : ∀ b ∈ first, isSpace b = true)
    (hlast : ∀ b ∈ last, isSpace b = true) (content : Bytes) :
    readings (first ++ content ++ last) = readings content := by
  rw [readings, readings, readText_append hfirst hlast]

/-- Spaces are not read. -/
theorem readings_of_spaces {content : Bytes} (h : ∀ b ∈ content, isSpace b = true) :
    readings content = [] := by
  rw [readings, readText_eq_nil_iff.mpr h, List.filterMap_nil]

/-- Character data is read as what it stands for, trimmed. -/
theorem readings_eq_singleton {content : Bytes} {text : List Char}
    (hcontent : charactersOf? content = some text) (h : ¬∀ b ∈ content, isSpace b = true) :
    readings content = [String.ofList (trim text)] := by
  rw [← strip_eq_nil_iff] at h
  have htext : textOf? (strip isSpace content) = some (String.ofList (trim text)) := by
    rw [textOf?_strip, textOf?_eq, hcontent]
    rfl
  rw [readings, Forest.readText, if_neg h, List.filterMap_cons_some htext, List.filterMap_nil]

/-! ### What is written in a descriptor -/

/-- **One text in a field is read as all of its character data is.** -/
theorem texts_eq_readText {children : Forest} (hflat : isFlat children = true)
    (hlength : (texts children).length ≤ 1) :
    texts children = Forest.readText (characterData children) := by
  induction children with
  | nil => rfl
  | text content next ih =>
    rw [texts, List.length_append] at hlength
    have hnext := ih hflat (by omega)
    rw [texts, characterData]
    by_cases hcontent : ∀ b ∈ content, isSpace b = true
    · have hread := readText_append hcontent (fun b hb => absurd hb List.not_mem_nil)
        (characterData next)
      rw [List.append_nil] at hread
      rw [hread, readText_eq_nil_iff.mpr hcontent, List.nil_append, hnext]
    · -- the length leaves no text for what follows, so spaces follow
      have hpos : 0 < (Forest.readText content).length := by
        rw [List.length_pos_iff, Ne, readText_eq_nil_iff]
        exact hcontent
      have hnil : texts next = [] := List.eq_nil_of_length_eq_zero (by omega)
      have hspaces := readText_eq_nil_iff.mp (hnext.symm.trans hnil)
      have hread := readText_append (fun b hb => absurd hb List.not_mem_nil) hspaces content
      rw [List.nil_append] at hread
      rw [hread, hnil, List.append_nil]
  | aside markup next ih =>
    rw [isFlat, Bool.and_eq_true] at hflat
    exact ih hflat.2 hlength
  | empty tag next _ => exact absurd hflat Bool.false_ne_true
  | element tag children spaces next _ _ => exact absurd hflat Bool.false_ne_true

theorem readings_of_isField {children : Forest} (h : isField children = true) :
    ((texts children).head?.bind textOf?).toList = readings (characterData children) := by
  simp only [isField, Bool.and_eq_true, decide_eq_true_eq] at h
  obtain ⟨⟨hflat, hlength⟩, -⟩ := h
  rw [readings, ← texts_eq_readText hflat hlength]
  cases hcontents : texts children with
  | nil => rfl
  | cons content rest =>
    rw [hcontents, List.length_cons] at hlength
    obtain rfl : rest = [] := List.eq_nil_of_length_eq_zero (by omega)
    cases textOf? content <;> rfl

/-- The patterns of an orderly mapping are what is read of the patterns that are written in it. -/
theorem valuesOf_fields {children : Forest} (h : isEntry kind children = true) :
    valuesOf patternTag (fields children) = (writtenPatterns children).flatMap readings := by
  induction children with
  | nil => rfl
  | text content next ih =>
    rw [isEntry, Bool.and_eq_true] at h
    exact ih h.2
  | aside markup next ih => exact ih h
  | empty tag next ih =>
    have hfields : fields (.empty tag next) =
        [⟨localName (tagName tag), none⟩] ++ fields next := rfl
    rw [hfields, valuesOf_append, valuesOf_singleton, writtenPatterns, List.flatMap_append, ih h]
    split <;> rfl
  | element tag children spaces next _ ihn =>
    simp only [isEntry, Bool.and_eq_true] at h
    obtain ⟨⟨-, hinside⟩, hnext⟩ := h
    have hfields : fields (.element tag children spaces next) =
        [⟨localName (tagName tag), (texts children).head?.bind textOf?⟩] ++ fields next := rfl
    rw [hfields, valuesOf_append, valuesOf_singleton, writtenPatterns, List.flatMap_append,
      ihn hnext]
    by_cases htag : localName (tagName tag) = patternTag
    · have hfield : isField children = true := by simpa [isKnown, htag] using hinside
      rw [if_pos htag, if_pos htag, List.flatMap_singleton]
      exact congrArg (· ++ _) (readings_of_isField hfield)
    · rw [if_neg htag, if_neg htag, List.flatMap_nil]

/-- **An orderly descriptor declares what is read of the patterns that are written in it.** -/
theorem declared_eq {forest : Forest} (h : isOrderly kind forest = true) :
    declared kind name forest = (written kind name forest).flatMap readings := by
  induction forest with
  | nil => rfl
  | text content next ih => exact ih h
  | aside markup next ih => exact ih h
  | empty tag next ih =>
    have hnothing : declared kind name (.empty tag next) = declared kind name next := by
      rw [declared, mappings]
      split <;> rfl
    rw [hnothing]
    exact ih h
  | element tag children spaces next ihc ihn =>
    rw [isOrderly, Bool.and_eq_true] at h
    rw [declared, mappings, written, List.flatMap_append, List.flatMap_append]
    refine congrArg (· ++ _) ?_ |>.trans (congrArg _ (ihn h.2))
    by_cases htag : localName (tagName tag) = kind.mappingTag
    · have hentry : isEntry kind children = true := by simpa [htag] using h.1
      rw [if_pos htag, if_pos htag, List.flatMap_singleton, patternsFor, valuesOf_fields hentry]
      split <;> rfl
    · rw [if_neg htag, if_neg htag]
      exact ihc (by simpa [htag] using h.1)

/-! ### A descriptor with one pattern -/

/-- Blanks around a pattern do not matter. -/
theorem pathOf?_eq_of_trim {pattern other : String}
    (h : trim pattern.toList = trim other.toList) : pathOf? pattern = pathOf? other := by
  rw [pathOf?, pathOf?, ofUrlPattern, ofUrlPattern, h]

/-- **A descriptor with one pattern gives the filter path of the pattern**, if it stands for one. -/
theorem filterPath_of_declaresOnly {document : Bytes} {pattern : String}
    (h : DeclaresOnly kind name pattern document) :
    (filterPath kind name document).toOption = pathOf? pattern := by
  obtain ⟨forest, content, htree, horderly, hwritten, hcontent⟩ := h
  have hpaths := filterPaths_of_isOrderly htree.reads horderly name
  rw [declared_eq horderly, hwritten, List.flatMap_singleton] at hpaths
  have htrim : trim (String.ofList (trim pattern.toList)).toList = trim pattern.toList := by
    rw [String.toList_ofList, trim_eq_self (trimmed_trim _)]
  rw [← pathOf?_eq_of_trim htrim]
  by_cases hspaces : ∀ b ∈ content, isSpace b = true
  · obtain ⟨blanks, hblanks, hblank⟩ := exists_charactersOf?_spaces hspaces
    obtain rfl := Option.some.inj (hcontent.symm.trans hblanks)
    rw [readings_of_spaces hspaces] at hpaths
    rw [filterPath, hpaths, trim, strip_eq_nil_iff.mpr hblank]
    rfl
  · rw [readings_eq_singleton hcontent hspaces] at hpaths
    rw [filterPath, hpaths]
    generalize String.ofList (trim pattern.toList) = text
    cases hpath : pathOf? text with
    | none => simp [hpath, bind, Except.bind, Except.toOption]
    | some path => simp [hpath, bind, Except.bind, Except.toOption, unique, List.eraseDups_cons]

end WebMount.Mount.Descriptor
