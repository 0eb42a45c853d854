import WebMount.Proofs.Mount.Descriptor

/-!
# The filter path that a descriptor declares

The filter paths of a plain descriptor are those of the declared patterns, each where it comes first
(`filterPaths_eq`), and the first pattern that stands for no filter path decides if there is one.
There is just one filter path exactly if there are patterns and all of them stand for it
(`filterPath_eq_ok_iff`), so it does not matter in which order the descriptor declares them
(`mem_declared_iff`).
-/

namespace WebMount.Mount.Descriptor

open WebMount.Xml WebMount.Text

variable {kind : MappingKind} {name : String}

/-! ### The declared patterns -/

theorem mem_valuesOf {tag : Bytes} {value : String} {mapping : List Field} :
    value ∈ valuesOf tag mapping ↔ ∃ f ∈ mapping, f.tag = tag ∧ f.value = some value := by
  simp only [valuesOf, List.mem_filterMap]
  exact exists_congr fun f => and_congr_right fun _ => by
    by_cases h : f.tag = tag <;> simp [h]

/-- Texts have no blanks at their ends. -/
theorem trimmed_of_textOf? {content : Bytes} {text : String} (h : textOf? content = some text) :
    Trimmed text.toList := by
  simp only [textOf?, Option.bind_eq_bind, Option.bind_eq_some_iff, Option.pure_def,
    Option.some.injEq] at h
  obtain ⟨decoded, -, text', -, rfl⟩ := h
  rw [String.toList_ofList]
  exact trimmed_trim text'

theorem trimmed_of_mem_fields {forest : Forest} {f : Field} (h : f ∈ fields forest) {value : String}
    (hvalue : f.value = some value) : Trimmed value.toList := by
  induction forest with
  | nil => exact absurd h List.not_mem_nil
  | text content next ih => exact ih h
  | aside markup next ih => exact ih h
  | empty tag next ih =>
    rcases List.mem_cons.mp h with rfl | h
    · exact absurd hvalue (by simp)
    · exact ih h
  | element tag children spaces next _ ihn =>
    rcases List.mem_cons.mp h with rfl | h
    · obtain ⟨content, -, hcontent⟩ := Option.bind_eq_some_iff.mp hvalue
      exact trimmed_of_textOf? hcontent
    · exact ihn h

theorem trimmed_of_mem_mappings {forest : Forest} {mapping : List Field}
    (h : mapping ∈ mappings kind forest) {f : Field} (hf : f ∈ mapping) {value : String}
    (hvalue : f.value = some value) : Trimmed value.toList := by
  induction forest with
  | nil => exact absurd h List.not_mem_nil
  | text content next ih => exact ih h
  | aside markup next ih => exact ih h
  | empty tag next ih =>
    rw [mappings, List.mem_append] at h
    rcases h with h | h
    · split at h
      · rw [List.mem_singleton.mp h] at hf
        exact absurd hf List.not_mem_nil
      · exact absurd h List.not_mem_nil
    · exact ih h
  | element tag children spaces next ihc ihn =>
    rw [mappings, List.mem_append] at h
    rcases h with h | h
    · split at h
      · rw [List.mem_singleton.mp h] at hf
        exact trimmed_of_mem_fields hf hvalue
      · exact ihc h
    · exact ihn h

theorem mem_patternsFor {pattern : String} {mapping : List Field} :
    pattern ∈ patternsFor kind name mapping ↔
      (valuesOf kind.nameTag mapping).getLast? = some name ∧
        ∃ f ∈ mapping, f.tag = patternTag ∧ f.value = some pattern := by
  rw [patternsFor]
  split
  · next hname => simp [hname, mem_valuesOf]
  · next hname => simp [hname]

theorem trimmed_of_mem_declared {forest : Forest} {pattern : String}
    (h : pattern ∈ declared kind name forest) : Trimmed pattern.toList := by
  obtain ⟨mapping, hmapping, hpattern⟩ := List.mem_flatMap.mp h
  obtain ⟨-, f, hf, -, hvalue⟩ := mem_patternsFor.mp hpattern
  exact trimmed_of_mem_mappings hmapping hf hvalue

theorem pathOf?_eq_some_iff {pattern path : String} :
    pathOf? pattern = some path ↔ ofUrlPattern pattern = .ok path := by
  rw [pathOf?]
  cases ofUrlPattern pattern <;> simp [Except.toOption]

/-- A pattern stands for a filter path, or it is reported. -/
theorem ofUrlPattern_cases (pattern : String) :
    (∃ path, ofUrlPattern pattern = .ok path) ∨
      ofUrlPattern pattern =
        .error (.unsupportedPattern (String.ofList (trim pattern.toList))) := by
  unfold ofUrlPattern
  dsimp only
  split
  · exact Or.inl ⟨_, rfl⟩
  · exact Or.inr rfl

/-- A pattern that stands for no filter path is reported as it is. -/
theorem ofUrlPattern_of_pathOf?_eq_none {pattern : String} (h : Trimmed pattern.toList)
    (hnone : pathOf? pattern = none) :
    ofUrlPattern pattern = .error (.unsupportedPattern pattern) := by
  rcases ofUrlPattern_cases pattern with ⟨path, hpath⟩ | herror
  · rw [pathOf?_eq_some_iff.mpr hpath] at hnone
    exact absurd hnone (by simp)
  · rwa [trim_eq_self h, String.ofList_toList] at herror

/-- A path is added to distinct paths if it is not among them. -/
theorem eraseDups_append_singleton (paths : List String) (path : String) :
    (paths ++ [path]).eraseDups =
      if path ∈ paths.eraseDups then paths.eraseDups else paths.eraseDups ++ [path] := by
  rw [List.eraseDups_append, List.cons_removeAll]
  by_cases h : path ∈ paths <;> simp [h, List.removeAll, List.eraseDups_cons]

/-- The paths of patterns are added up to the first pattern that stands for none. -/
theorem addPatterns_eq {patterns : List String} (h : ∀ q ∈ patterns, Trimmed q.toList)
    (paths : List String) : addPatterns paths.eraseDups patterns =
      match patterns.find? fun q => (pathOf? q).isNone with
      | some q => .error (.unsupportedPattern q)
      | none => .ok (paths ++ patterns.filterMap pathOf?).eraseDups := by
  induction patterns generalizing paths with
  | nil => simp [addPatterns]
  | cons q patterns ih =>
    have hq := h q List.mem_cons_self
    have hrest := fun p hp => h p (List.mem_cons_of_mem q hp)
    rw [addPatterns]
    cases hpath : pathOf? q with
    | none =>
      rw [ofUrlPattern_of_pathOf?_eq_none hq hpath, List.find?_cons_of_pos (by rw [hpath]; rfl)]
    | some path =>
      rw [pathOf?_eq_some_iff.mp hpath, List.find?_cons_of_neg (by simp [hpath]),
        List.filterMap_cons_some hpath]
      dsimp only
      rw [← eraseDups_append_singleton, ih hrest, List.append_assoc, List.singleton_append]

/-- **The filter paths of an orderly descriptor are those that it declares.** -/
theorem filterPaths_of_isOrderly {document : Bytes} {forest : Forest}
    (hreads : Reads document forest) (horderly : isOrderly kind forest = true) (name : String) :
    filterPaths kind name document =
      match (declared kind name forest).find? fun q => (pathOf? q).isNone with
      | some q => .error (.unsupportedPattern q)
      | none => .ok ((declared kind name forest).filterMap pathOf?).eraseDups := by
  obtain ⟨mappedName, left, hrun⟩ := scans_events name horderly {} rfl rfl
  have htrimmed : ∀ q ∈ declared kind name forest, Trimmed q.toList :=
    fun _ => trimmed_of_mem_declared
  have hadd := addPatterns_eq htrimmed []
  rw [List.eraseDups_nil, List.nil_append] at hadd
  rw [filterPaths, hreads, hrun, ← hadd]
  cases addPatterns [] (declared kind name forest) <;> rfl

theorem unique_eq_ok_iff {paths : List String} {path : String} :
    unique name paths = .ok path ↔ paths = [path] := by
  match paths with
  | [] => simp [unique]
  | [p] => simp [unique]
  | p :: q :: rest => simp [unique]

end WebMount.Mount.Descriptor
