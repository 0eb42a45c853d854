import WebMount.Mount.Declaration
import WebMount.Proofs.Text.Blank
import WebMount.Proofs.Xml.Tree

/-!
# The scan of a descriptor finds what it declares

Outside mappings the scan is between two states that differ in nothing that matters: it is in no
mapping and in no element, and what is left of the mapping before is forgotten when the next one
begins (`Scans`). Pieces that are scanned so one after the other are scanned so together
(`Scans.append`). A mapping adds the paths of its patterns if it names the name last
(`scans_mapping`), because inside it the name and the patterns are exactly those of the fields
scanned so far (`run_fields`), and whatever stands beside them is passed over (`run_foreign`). So
the scan of an orderly descriptor adds the declared patterns in document order (`scans_events`). A
plain descriptor is orderly (`isOrderly_of_isPlain`).
-/

namespace WebMount.Mount.Descriptor

open WebMount.Xml WebMount.Text

variable {kind : MappingKind} {name : String}

/-! ### One scan after the other -/

theorem Scan.run_append (s : Scan) (before after : List Xml.Event) :
    Scan.run kind name s (before ++ after) =
      (Scan.run kind name s before).bind fun s => Scan.run kind name s after := by
  induction before generalizing s with
  | nil => rfl
  | cons event before ih =>
    rw [List.cons_append, Scan.run, Scan.run]
    cases s.step kind name event with
    | ok s => exact ih s
    | error e => rfl

theorem Scan.run_cons (s : Scan) (event : Xml.Event) (events : List Xml.Event) :
    Scan.run kind name s (event :: events) =
      (s.step kind name event).bind fun s => Scan.run kind name s events := by
  rw [Scan.run]
  cases s.step kind name event <;> rfl

theorem Scan.run_singleton (s : Scan) (event : Xml.Event) :
    Scan.run kind name s [event] = s.step kind name event := by
  rw [run_cons]
  cases s.step kind name event <;> rfl

/-- A text changes nothing but the name and the patterns. -/
theorem Scan.exists_of_step_text {s t : Scan} {content : Bytes}
    (h : s.step kind name (.text content) = .ok t) :
    ∃ mappedName patterns, t = { s with mappedName, patterns } := by
  rw [step] at h
  split at h
  · split at h
    · exact absurd h (by simp)
    · next text _ =>
      obtain rfl := Except.ok.inj h
      split
      · exact ⟨some text, s.patterns, rfl⟩
      · split
        · exact ⟨s.mappedName, s.patterns ++ [text], rfl⟩
        · exact ⟨s.mappedName, s.patterns, rfl⟩
  · obtain rfl := Except.ok.inj h
    exact ⟨s.mappedName, s.patterns, rfl⟩

/-- A start tag finds no paths. -/
theorem Scan.paths_of_step_startTag {s t : Scan} {tag : Bytes}
    (h : s.step kind name (.startTag tag) = .ok t) : t.paths = s.paths := by
  obtain rfl := Except.ok.inj h
  split
  · rfl
  · split <;> rfl

/-- Behind an end tag, the scan is in no element. -/
theorem Scan.element_of_step_endTag {s t : Scan} {tag : Bytes}
    (h : s.step kind name (.endTag tag) = .ok t) : t.element = none := by
  rw [step] at h
  split at h
  · split at h
    · split at h
      · obtain rfl := Except.ok.inj h
        rfl
      · exact absurd h (by simp)
    · obtain rfl := Except.ok.inj h
      rfl
  · obtain rfl := Except.ok.inj h
    rfl

theorem addPatterns_append (paths before after : List String) :
    addPatterns paths (before ++ after) =
      (addPatterns paths before).bind fun paths => addPatterns paths after := by
  induction before generalizing paths with
  | nil => rfl
  | cons pattern before ih =>
    rw [List.cons_append, addPatterns, addPatterns]
    cases ofUrlPattern pattern with
    | ok path => exact ih _
    | error e => rfl

/-- The paths of patterns are added behind those that are there, unless they are among them. -/
theorem addPatterns_eq_append (paths patterns : List String) :
    addPatterns paths patterns =
      (addPatterns [] patterns).map fun found => paths ++ found.filter (· ∉ paths) := by
  induction patterns generalizing paths with
  | nil => simp [addPatterns, Except.map]
  | cons pattern patterns ih =>
    rw [addPatterns, addPatterns]
    cases ofUrlPattern pattern with
    | error e => rfl
    | ok path =>
      dsimp only
      rw [ih, if_neg List.not_mem_nil, List.nil_append, ih [path]]
      cases addPatterns [] patterns with
      | error e => rfl
      | ok found =>
        by_cases hpath : path ∈ paths
        · -- the path is there, so it is left out with the others that are there
          have hfilter : (found.filter (· ∉ [path])).filter (· ∉ paths) =
              found.filter (· ∉ paths) := by
            rw [List.filter_filter]
            exact List.filter_congr fun p _ => by
              by_cases hp : p = path <;> simp [hp, hpath]
          simp only [if_pos hpath, Except.map, List.singleton_append]
          rw [List.filter_cons_of_neg (by simpa using hpath), hfilter]
        · have hfilter : (found.filter (· ∉ [path])).filter (· ∉ paths) =
              found.filter (· ∉ paths ++ [path]) := by
            rw [List.filter_filter]
            exact List.filter_congr fun p _ => by simp
          simp only [if_neg hpath, Except.map, List.singleton_append]
          rw [List.filter_cons_of_pos (by simpa using hpath), hfilter, List.append_assoc]
          rfl

/-- Outside mappings and elements, the scan of the events adds the patterns to the paths found, and
is outside mappings and elements again. -/
def Scans (kind : MappingKind) (name : String) (events : List Xml.Event) (patterns : List String) :
    Prop :=
  ∀ s : Scan, s.inMapping = false → s.element = none → ∃ mappedName left,
    Scan.run kind name s events = (addPatterns s.paths patterns).map fun paths =>
      { inMapping := false, element := none, mappedName, patterns := left, paths }

theorem Scans.nil : Scans kind name [] [] := by
  rintro ⟨_, _, mappedName, left, paths⟩ rfl rfl
  exact ⟨mappedName, left, rfl⟩

theorem Scans.append {es fs : List Xml.Event} {ps qs : List String} (he : Scans kind name es ps)
    (hf : Scans kind name fs qs) : Scans kind name (es ++ fs) (ps ++ qs) := by
  intro s hs hs'
  obtain ⟨mappedName, left, hrun⟩ := he s hs hs'
  rw [Scan.run_append, hrun, addPatterns_append]
  cases addPatterns s.paths ps with
  | error e => exact ⟨none, [], rfl⟩
  | ok paths => exact hf ⟨false, none, mappedName, left, paths⟩ rfl rfl

/-! ### Outside mappings -/

theorem scans_text (content : Bytes) : Scans kind name [.text content] [] := by
  rintro ⟨_, _, mappedName, left, paths⟩ rfl rfl
  exact ⟨mappedName, left, rfl⟩

theorem scans_texts (contents : List Bytes) : Scans kind name (contents.map .text) [] := by
  induction contents with
  | nil => exact .nil
  | cons content contents ih => exact (scans_text content).append ih

theorem scans_startTag {tag : Bytes} (h : tag ≠ kind.mappingTag) :
    Scans kind name [.startTag tag] [] := by
  rintro ⟨_, _, mappedName, left, paths⟩ rfl rfl
  exact ⟨mappedName, left, by simp [Scan.run, Scan.step, h, addPatterns, Except.map]⟩

theorem scans_endTag {tag : Bytes} (h : tag ≠ kind.mappingTag) :
    Scans kind name [.endTag tag] [] := by
  rintro ⟨_, _, mappedName, left, paths⟩ rfl rfl
  exact ⟨mappedName, left, by simp [Scan.run, Scan.step, h, addPatterns, Except.map]⟩

/-! ### Inside a mapping -/

/-- The names of elements that the scan looks for are different. -/
theorem tags_ne (kind : MappingKind) : kind.nameTag ≠ patternTag := by
  cases kind <;> decide

theorem valuesOf_append (tag : Bytes) (before after : List Field) :
    valuesOf tag (before ++ after) = valuesOf tag before ++ valuesOf tag after :=
  List.filterMap_append

theorem valuesOf_singleton (tag : Bytes) (f : Field) :
    valuesOf tag [f] = if f.tag = tag then f.value.toList else [] := by
  rw [valuesOf]
  by_cases h : f.tag = tag <;> cases hvalue : f.value <;> simp [h, hvalue]

/-- What the scan remembers behind fields: the name that was given last, and all patterns. -/
def Scan.remember (kind : MappingKind) (s : Scan) (scanned : List Field) : Scan :=
  { s with
    mappedName := (valuesOf kind.nameTag scanned).getLast?.or s.mappedName
    patterns := s.patterns ++ valuesOf patternTag scanned }

theorem Scan.remember_append (s : Scan) (before after : List Field) :
    s.remember kind (before ++ after) = (s.remember kind before).remember kind after := by
  simp only [remember, valuesOf_append, List.getLast?_append, Option.or_assoc, List.append_assoc]

/-- A field without a text says nothing. -/
theorem Scan.remember_none (s : Scan) (tag : Bytes) : s.remember kind [⟨tag, none⟩] = s := by
  simp [remember, valuesOf_singleton]

/-- The texts of a forest without elements. -/
theorem events_of_isFlat {forest : Forest} (h : isFlat forest = true) :
    forest.events = (texts forest).map .text := by
  induction forest with
  | nil => rfl
  | text content next ih => rw [Forest.events, texts, List.map_append, ih h]
  | aside markup next ih =>
    rw [isFlat, Bool.and_eq_true] at h
    exact ih h.2
  | empty tag next _ => exact absurd h (by simp [isFlat])
  | element tag children spaces next _ _ => exact absurd h (by simp [isFlat])

/-- A text is taken for the element that it stands in. -/
theorem step_text {s : Scan} {tag content : Bytes} {text : String} (hs : s.inMapping = true)
    (htag : s.element = some tag) (htext : textOf? content = some text) :
    s.step kind name (.text content) = .ok (s.remember kind [⟨tag, some text⟩]) := by
  obtain ⟨_, _, mappedName, left, paths⟩ := s
  obtain rfl : _ = some tag := htag
  rw [Scan.step, if_pos hs, htext, Scan.remember, valuesOf_singleton, valuesOf_singleton]
  by_cases hname : tag = kind.nameTag
  · simp [hname, tags_ne kind]
  · by_cases hpattern : tag = patternTag
    · simp [hpattern, (tags_ne kind).symm]
    · simp [hname, hpattern]

/-- Texts are taken for the element that they stand in, each for a value of its own. -/
theorem run_texts {s : Scan} {tag : Bytes} {contents : List Bytes} (hs : s.inMapping = true)
    (htag : s.element = some tag) (h : ∀ content ∈ contents, (textOf? content).isSome = true) :
    Scan.run kind name s (contents.map .text) =
      .ok (s.remember kind ((contents.filterMap textOf?).map fun text => ⟨tag, some text⟩)) := by
  induction contents generalizing s with
  | nil =>
    obtain ⟨_, _, mappedName, left, paths⟩ := s
    simp [Scan.run, Scan.remember, valuesOf]
  | cons content contents ih =>
    rw [List.forall_mem_cons] at h
    obtain ⟨text, htext⟩ := Option.isSome_iff_exists.mp h.1
    have hfields : (text :: contents.filterMap textOf?).map (fun text => ⟨tag, some text⟩) =
        [(⟨tag, some text⟩ : Field)] ++ (contents.filterMap textOf?).map fun text =>
          ⟨tag, some text⟩ := rfl
    rw [List.map_cons, Scan.run, step_text hs htag htext, List.filterMap_cons_some htext, hfields,
      Scan.remember_append]
    exact ih hs htag h.2

theorem step_startTag {s : Scan} {tag : Bytes} (htag : tag ≠ kind.mappingTag)
    (hs : s.inMapping = true) :
    s.step kind name (.startTag tag) = .ok { s with element := some tag } := by
  rw [Scan.step, if_neg htag, if_pos hs]

theorem step_endTag {tag : Bytes} (htag : tag ≠ kind.mappingTag) (s : Scan) :
    s.step kind name (.endTag tag) = .ok { s with element := none } := by
  rw [Scan.step, if_neg htag]

/-- The events of an element, and those of what follows it. -/
theorem events_element (tag : Bytes) (children : Forest) (spaces : Bytes) (next : Forest) :
    (Forest.element tag children spaces next).events =
      (.startTag (localName (tagName tag)) ::
        (children.events ++ [.endTag (localName (tagName tag))])) ++ next.events := by
  simp [Forest.events]

/-- An element in a mapping is left in the state in which its inside is left. -/
theorem run_element {tag : Bytes} (htag : tag ≠ kind.mappingTag) {s t : Scan}
    (hs : s.inMapping = true) {inside : List Xml.Event}
    (hrun : Scan.run kind name { s with element := some tag } inside = .ok t) :
    Scan.run kind name s (.startTag tag :: (inside ++ [.endTag tag])) =
      .ok { t with element := none } := by
  rw [Scan.run, step_startTag htag hs]
  dsimp only
  rw [Scan.run_append, hrun, Except.bind, Scan.run, step_endTag htag]
  rfl

/-- A field is scanned as what it says. -/
theorem run_field {tag : Bytes} {children : Forest} (htag : tag ≠ kind.mappingTag)
    (h : isField children = true) {s : Scan} (hs : s.inMapping = true) (hs' : s.element = none) :
    Scan.run kind name s (.startTag tag :: (children.events ++ [.endTag tag])) =
      .ok (s.remember kind [⟨tag, (texts children).head?.bind textOf?⟩]) := by
  simp only [isField, Bool.and_eq_true, decide_eq_true_eq] at h
  obtain ⟨⟨hflat, hlength⟩, hall⟩ := h
  obtain ⟨_, _, mappedName, left, paths⟩ := s
  obtain rfl : _ = true := hs
  obtain rfl : _ = none := hs'
  rw [events_of_isFlat hflat]
  match hcontents : texts children, hlength with
  | [], _ =>
    rw [List.head?_nil, Option.bind_none, Scan.remember_none, run_element htag rfl rfl]
  | [content], _ =>
    rw [hcontents, List.all_cons, Bool.and_eq_true] at hall
    obtain ⟨text, htext⟩ := Option.isSome_iff_exists.mp hall.1
    have hread : Scan.run kind name ⟨true, some tag, mappedName, left, paths⟩ [.text content] =
        .ok (Scan.remember kind ⟨true, some tag, mappedName, left, paths⟩ [⟨tag, some text⟩]) := by
      rw [Scan.run, step_text rfl rfl htext]
      rfl
    rw [List.head?_cons, Option.bind_some, htext]
    exact run_element (s := ⟨true, none, mappedName, left, paths⟩) htag rfl hread

/-- The scan is in a mapping, and in none of its names and patterns. -/
structure Scan.Beside (kind : MappingKind) (s : Scan) : Prop where
  inMapping : s.inMapping = true
  not_name : s.element ≠ some kind.nameTag
  not_pattern : s.element ≠ some patternTag

theorem Scan.Beside.of_element {s : Scan} (h : s.inMapping = true) (hnone : s.element = none) :
    s.Beside kind :=
  ⟨h, by simp [hnone], by simp [hnone]⟩

/-- A text beside names and patterns is passed over if it can be decoded. -/
theorem run_readable {content : Bytes} (h : isReadable content = true) {s : Scan}
    (hs : s.Beside kind) :
    Scan.run kind name s ((Forest.readText content).map .text) = .ok s := by
  rw [isReadable] at h
  generalize Forest.readText content = contents at h
  induction contents with
  | nil => rfl
  | cons content contents ih =>
    rw [List.all_cons, Bool.and_eq_true] at h
    obtain ⟨text, htext⟩ := Option.isSome_iff_exists.mp h.1
    rw [List.map_cons, Scan.run, Scan.step, if_pos hs.inMapping, htext]
    dsimp only
    rw [if_neg hs.not_name, if_neg hs.not_pattern]
    exact ih h.2

/-- **What stands in a mapping beside its names and patterns is passed over**, but for the element
begun last. -/
theorem run_foreign {children : Forest} (h : isForeign kind children = true) {s : Scan}
    (hs : s.Beside kind) :
    ∃ element, Scan.run kind name s children.events = .ok { s with element } := by
  induction children generalizing s with
  | nil => exact ⟨s.element, rfl⟩
  | text content next ih =>
    rw [isForeign, Bool.and_eq_true] at h
    rw [Forest.events, Scan.run_append, run_readable h.1 hs]
    exact ih h.2 hs
  | aside markup next ih => exact ih h hs
  | empty tag next ih => exact ih h hs
  | element tag children spaces next ihc ihn =>
    simp only [isForeign, isKnown, Bool.and_eq_true, Bool.not_eq_true', Bool.or_eq_false_iff,
      beq_eq_false_iff_ne] at h
    obtain ⟨⟨⟨⟨hmapping, hname⟩, hpattern⟩, hchildren⟩, hnext⟩ := h
    have hinside : Scan.Beside kind { s with element := some (localName (tagName tag)) } :=
      ⟨hs.inMapping, by simpa using hname, by simpa using hpattern⟩
    obtain ⟨element, hrun⟩ := ihc hchildren hinside
    rw [events_element, Scan.run_append, run_element hmapping hs.inMapping hrun]
    exact ihn hnext (.of_element hs.inMapping rfl)

/-- A field that is neither a name nor a pattern says nothing. -/
theorem Scan.remember_of_ne {tag : Bytes} (hname : tag ≠ kind.nameTag) (hpattern : tag ≠ patternTag)
    (s : Scan) (value : Option String) : s.remember kind [⟨tag, value⟩] = s := by
  simp [remember, valuesOf_singleton, hname, hpattern]

/-- **Inside a mapping the scan remembers the fields.** -/
theorem run_fields {children : Forest} (h : isEntry kind children = true) {s : Scan}
    (hs : s.inMapping = true) (hs' : s.element = none) :
    Scan.run kind name s children.events = .ok (s.remember kind (fields children)) := by
  induction children generalizing s with
  | nil =>
    obtain ⟨_, _, mappedName, left, paths⟩ := s
    simp [Forest.events, Scan.run, fields, Scan.remember, valuesOf]
  | text content next ih =>
    rw [isEntry, Bool.and_eq_true] at h
    rw [Forest.events, Scan.run_append, run_readable h.1 (.of_element hs hs')]
    exact ih h.2 hs hs'
  | aside markup next ih => exact ih h hs hs'
  | empty tag next ih =>
    have hfields : fields (.empty tag next) =
        [⟨localName (tagName tag), none⟩] ++ fields next := rfl
    rw [hfields, Scan.remember_append, Scan.remember_none]
    exact ih h hs hs'
  | element tag children spaces next _ ihn =>
    simp only [isEntry, Bool.and_eq_true, bne_iff_ne] at h
    obtain ⟨⟨htag, hinside⟩, hnext⟩ := h
    have hfields : fields (.element tag children spaces next) =
        [⟨localName (tagName tag), (texts children).head?.bind textOf?⟩] ++ fields next := rfl
    rw [events_element, Scan.run_append, hfields, Scan.remember_append]
    split at hinside
    · rw [run_field htag hinside hs hs']
      exact ihn hnext hs hs'
    · next hforeign =>
      simp only [isKnown, Bool.or_eq_true, beq_iff_eq, not_or] at hforeign
      obtain ⟨_, _, mappedName, left, paths⟩ := s
      obtain rfl : _ = true := hs
      obtain rfl : _ = none := hs'
      have hbeside : Scan.Beside kind
          ⟨true, some (localName (tagName tag)), mappedName, left, paths⟩ :=
        ⟨rfl, by simpa using hforeign.1.2, by simpa using hforeign.2⟩
      obtain ⟨element, hrun⟩ : ∃ element, Scan.run kind name _ children.events = _ :=
        run_foreign hinside hbeside
      rw [run_element (s := ⟨true, none, mappedName, left, paths⟩) htag rfl hrun,
        Scan.remember_of_ne hforeign.1.2 hforeign.2]
      exact ihn hnext rfl rfl

/-- **A mapping adds the patterns that it gives to the name**, if the scan remembers its fields.
What was left of the mapping before it is forgotten. -/
theorem scans_mapping_of_run {inside : List Xml.Event} {scanned : List Field}
    (h : ∀ s : Scan, s.inMapping = true → s.element = none →
      Scan.run kind name s inside = .ok (s.remember kind scanned)) :
    Scans kind name (.startTag kind.mappingTag :: (inside ++ [.endTag kind.mappingTag]))
      (patternsFor kind name scanned) := by
  rintro ⟨_, _, mappedName, left, paths⟩ rfl rfl
  have hstart : Scan.step kind name ⟨false, none, mappedName, left, paths⟩
      (.startTag kind.mappingTag) = .ok ⟨true, none, none, [], paths⟩ := by
    rw [Scan.step, if_pos rfl]
  rw [Scan.run, hstart]
  dsimp only
  rw [Scan.run_append, h _ rfl rfl, Except.bind, Scan.run, Scan.step, if_pos rfl, patternsFor]
  simp only [Scan.remember, Option.or_none, List.nil_append]
  by_cases hname : (valuesOf kind.nameTag scanned).getLast? = some name
  · refine ⟨some name, [], ?_⟩
    rw [if_pos hname, if_pos hname, hname]
    cases addPatterns paths (valuesOf patternTag scanned) <;> rfl
  · refine ⟨(valuesOf kind.nameTag scanned).getLast?, valuesOf patternTag scanned, ?_⟩
    rw [if_neg hname, if_neg hname]
    rfl

theorem scans_mapping {children : Forest} (h : isEntry kind children = true) :
    Scans kind name
      (.startTag kind.mappingTag :: (children.events ++ [.endTag kind.mappingTag]))
      (patternsFor kind name (fields children)) :=
  scans_mapping_of_run fun _ hs hs' => run_fields h hs hs'

/-! ### The whole descriptor -/

/-- **The scan of an orderly descriptor adds the declared patterns.** -/
theorem scans_events (name : String) {forest : Forest} (h : isOrderly kind forest = true) :
    Scans kind name forest.events (declared kind name forest) := by
  induction forest with
  | nil => exact .nil
  | text content next ih => exact (scans_texts (Forest.readText content)).append (ih h)
  | aside markup next ih => exact ih h
  | empty tag next ih =>
    have hnothing : declared kind name (.empty tag next) = declared kind name next := by
      rw [declared, mappings]
      split <;> rfl
    rw [hnothing]
    exact ih h
  | element tag children spaces next ihc ihn =>
    rw [isOrderly, Bool.and_eq_true] at h
    rw [events_element, declared, mappings, List.flatMap_append]
    refine .append ?_ (ihn h.2)
    by_cases htag : localName (tagName tag) = kind.mappingTag
    · rw [if_pos htag, htag, List.flatMap_singleton]
      exact scans_mapping (by simpa [htag] using h.1)
    · rw [if_neg htag]
      have hchildren := ihc (by simpa [htag] using h.1)
      have hall := ((scans_startTag htag).append hchildren).append (scans_endTag htag)
      rw [List.nil_append, List.append_nil] at hall
      exact hall

/-! ### Plain descriptors are orderly -/

end WebMount.Mount.Descriptor
