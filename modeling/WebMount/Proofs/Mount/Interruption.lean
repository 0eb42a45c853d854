import WebMount.Mount.Interruption
import WebMount.Proofs.Mount.FilterPath
import WebMount.Proofs.Mount.Written

/-!
# Which interruptions change the meaning of a descriptor

Two runs of the scan go on alike as long as it does not matter in what they differ (`Scan.view`,
`EndAlike.run`). Texts differ so at an interruption of a name or a pattern where the pieces come to
what the whole comes to (`endAlike_cut`), and everything around them is the same, so the whole
descriptor has the same filter paths (`isHarmless_of_keeps`). Otherwise a descriptor with one
mapping shows the difference: its filter paths are those of what the scan remembers of the pieces
(`Remembers`, `filterPaths_exampleOf`, `keeps_of_isHarmless`). Nothing is read at the ends
(`keeps_of_atEdge`), but a text that is cut has more characters than any piece, blanks apart
(`not_mem_pieces`), so it is not kept (`not_keeps_of_cutsText`).
-/

namespace WebMount.Mount.Descriptor

open WebMount.Xml WebMount.Text

variable {kind : MappingKind} {name : String}

/-! ### Scans that are alike -/

/-- What matters of a scan: everything but the patterns, and what the patterns add. -/
def Scan.view (s : Scan) : Scan × Except MountError (List String) :=
  ({ s with patterns := [] }, addPatterns [] s.patterns)

/-- Two runs end alike: with the same fault, or in scans of which the same matters. -/
def EndAlike (x y : Except MountError Scan) : Prop :=
  x.map Scan.view = y.map Scan.view

theorem Scan.exists_of_view_eq {s t : Scan} (h : s.view = t.view) : ∃ patterns,
    t = { s with patterns } ∧ addPatterns [] patterns = addPatterns [] s.patterns := by
  obtain ⟨_, _, _, _, _⟩ := s
  obtain ⟨_, _, _, left, _⟩ := t
  simp only [view, Prod.mk.injEq, Scan.mk.injEq, true_and] at h
  obtain ⟨⟨rfl, rfl, rfl, rfl⟩, hpatterns⟩ := h
  exact ⟨left, rfl, hpatterns.symm⟩

/-- Patterns that add the same to no paths add the same to any paths. -/
theorem addPatterns_congr {patterns other : List String}
    (h : addPatterns [] patterns = addPatterns [] other) (paths : List String) :
    addPatterns paths patterns = addPatterns paths other := by
  rw [addPatterns_eq_append, h, ← addPatterns_eq_append]

/-- An event keeps alike scans alike. -/
theorem EndAlike.step {s t : Scan} (h : s.view = t.view) (event : Xml.Event) :
    EndAlike (s.step kind name event) (t.step kind name event) := by
  obtain ⟨patterns, rfl, hpatterns⟩ := Scan.exists_of_view_eq h
  rw [EndAlike]
  cases event with
  | startTag tag =>
    rw [Scan.step, Scan.step]
    split
    · rfl
    · split <;> simp [Except.map, Scan.view, hpatterns]
  | text content =>
    rw [Scan.step, Scan.step]
    split
    · cases textOf? content with
      | none => rfl
      | some text =>
        dsimp only
        split
        · simp [Except.map, Scan.view, hpatterns]
        · split
          · simp [Except.map, Scan.view, addPatterns_append, hpatterns]
          · simp [Except.map, Scan.view, hpatterns]
    · simp [Except.map, Scan.view, hpatterns]
  | endTag tag =>
    rw [Scan.step, Scan.step]
    split
    · split
      · dsimp only
        rw [addPatterns_congr hpatterns]
      · simp [Except.map, Scan.view, hpatterns]
    · simp [Except.map, Scan.view, hpatterns]
  | malformed => rfl

/-- What goes on alike behind runs that end alike ends alike. -/
theorem EndAlike.bind {x y : Except MountError Scan} (h : EndAlike x y)
    {f g : Scan → Except MountError Scan}
    (hfg : ∀ {s t : Scan}, s.view = t.view → EndAlike (f s) (g t)) :
    EndAlike (x.bind f) (y.bind g) := by
  rw [EndAlike] at h
  cases x <;> cases y
  · exact h
  · exact absurd h (by simp [Except.map])
  · exact absurd h (by simp [Except.map])
  · exact hfg (Except.ok.inj h)

/-- The same events keep alike scans alike. -/
theorem EndAlike.run {s t : Scan} (h : s.view = t.view) (events : List Xml.Event) :
    EndAlike (Scan.run kind name s events) (Scan.run kind name t events) := by
  induction events generalizing s t with
  | nil => exact congrArg Except.ok h
  | cons event events ih =>
    rw [Scan.run_cons, Scan.run_cons]
    exact (EndAlike.step h event).bind ih

theorem EndAlike.append {s t : Scan} {before before' : List Xml.Event}
    (h : EndAlike (Scan.run kind name s before) (Scan.run kind name t before'))
    (after : List Xml.Event) :
    EndAlike (Scan.run kind name s (before ++ after))
      (Scan.run kind name t (before' ++ after)) := by
  rw [Scan.run_append, Scan.run_append]
  exact h.bind fun hview => EndAlike.run hview after

/-! ### Texts of an interruption -/

section Texts

variable {part : Part} {i : Interruption}

theorem Part.tag_ne_mappingTag (part : Part) (kind : MappingKind) : part.tag ≠ kind.mappingTag := by
  cases part with
  | name other => cases other <;> cases kind <;> decide
  | pattern => cases kind <;> decide

/-- The texts of character data that is in order can be decoded. -/
theorem isReadable_of_charactersOf? {content : Bytes} {text : List Char}
    (h : charactersOf? content = some text) : isReadable content = true := by
  have htext : textOf? (strip isSpace content) = some (String.ofList (trim text)) := by
    rw [textOf?_strip, textOf?_eq, h]
    rfl
  rw [isReadable, Forest.readText]
  split
  · rfl
  · rw [List.all_cons, htext]
    rfl

theorem charactersOf?_whole (i : Interruption) : charactersOf? i.whole = some i.text := by
  rw [Interruption.whole, List.append_assoc, charactersOf?_append i.before_eq,
    charactersOf?_append i.lost_eq, i.after_eq, Interruption.text]
  simp

/-- The fields that are read of a part. -/
def Part.fields (part : Part) (values : List String) : List Field :=
  values.map fun text => ⟨part.tag, some text⟩

theorem Part.valuesOf_fields (part : Part) (tag : Bytes) (values : List String) :
    valuesOf tag (part.fields values) = if part.tag = tag then values else [] := by
  induction values with
  | nil => exact (ite_self _).symm
  | cons value values ih =>
    have hfields : part.fields (value :: values) = [⟨part.tag, some value⟩] ++ part.fields values :=
      rfl
    rw [hfields, valuesOf_append, valuesOf_singleton, ih]
    split <;> rfl

/-- **What is kept of an interrupted part is what the scan remembers of it.** -/
theorem view_remember_of_keeps (h : Keeps i part) (s : Scan) :
    (s.remember kind (part.fields (pieces i))).view =
      (s.remember kind (part.fields (readings i.whole))).view := by
  simp only [Scan.remember, Scan.view, Part.valuesOf_fields]
  cases part with
  | name other =>
    have hne : (Part.name other).tag ≠ patternTag := tags_ne other
    rw [Keeps] at h
    rw [if_neg hne, if_neg hne]
    split
    · rw [h]
    · rfl
  | pattern =>
    have hne : Part.pattern.tag ≠ kind.nameTag := (tags_ne kind).symm
    rw [Keeps] at h
    have htag : Part.pattern.tag = patternTag := rfl
    rw [if_neg hne, if_neg hne, if_pos htag, if_pos htag, addPatterns_append, addPatterns_append]
    have hsame : (fun paths => addPatterns paths (pieces i)) =
        fun paths => addPatterns paths (readings i.whole) := funext (addPatterns_congr h)
    rw [hsame]

/-- In a part, the scan of the events remembers the values. -/
def Remembers (kind : MappingKind) (name : String) (part : Part) (inside : List Xml.Event)
    (values : List String) : Prop :=
  ∀ s : Scan, s.inMapping = true → s.element = some part.tag →
    Scan.run kind name s inside = .ok (s.remember kind (part.fields values))

theorem Remembers.append {inside inside' : List Xml.Event} {values values' : List String}
    (h : Remembers kind name part inside values) (h' : Remembers kind name part inside' values') :
    Remembers kind name part (inside ++ inside') (values ++ values') := by
  intro s hs htag
  have hfields : part.fields (values ++ values') = part.fields values ++ part.fields values' :=
    List.map_append
  rw [Scan.run_append, h s hs htag, Except.bind, hfields, Scan.remember_append]
  exact h' (s.remember kind (part.fields values)) hs htag

/-- In a part, the scan remembers what is read of the character data. -/
theorem remembers_readings {content : Bytes} (h : isReadable content = true) :
    Remembers kind name part ((Forest.readText content).map .text) (readings content) :=
  fun _ hs htag => run_texts hs htag (List.all_eq_true.mp h)

theorem remembers_whole (i : Interruption) :
    Remembers kind name part ((Forest.readText i.whole).map .text) (readings i.whole) :=
  remembers_readings (isReadable_of_charactersOf? (charactersOf?_whole i))

theorem remembers_pieces (i : Interruption) :
    Remembers kind name part
      ((Forest.readText i.before).map .text ++ (Forest.readText i.after).map .text) (pieces i) :=
  (remembers_readings (isReadable_of_charactersOf? i.before_eq)).append
    (remembers_readings (isReadable_of_charactersOf? i.after_eq))

/-- Inside a part, the scan is in no mapping, or in the part, or behind an element in it. -/
def Scan.Within (part : Part) (parent : Option Bytes) (s : Scan) : Prop :=
  parent = some part.tag → s.inMapping = true → s.element = some part.tag ∨ s.element = none

/-- Texts outside mappings are passed over. -/
theorem run_outside {s : Scan} (hs : s.inMapping = false) (contents : List Bytes) :
    Scan.run kind name s (contents.map .text) = .ok s := by
  induction contents with
  | nil => rfl
  | cons content contents ih =>
    rw [List.map_cons, Scan.run, Scan.step, hs, if_neg Bool.false_ne_true]
    exact ih

/-- **The scan does not notice an interruption where it stands**, if what is read of the pieces
comes to what is read of the whole. -/
theorem endAlike_cut (h : Keeps i part) {s : Scan} (hs : s.Within part (some part.tag)) :
    EndAlike
      (Scan.run kind name s
        ((Forest.readText i.before).map .text ++ (Forest.readText i.after).map .text))
      (Scan.run kind name s ((Forest.readText i.whole).map .text)) := by
  by_cases hmapping : s.inMapping = true
  · rcases hs rfl hmapping with htag | hnone
    · rw [remembers_pieces i s hmapping htag, remembers_whole i s hmapping htag]
      exact congrArg Except.ok (view_remember_of_keeps h s)
    · have hbeside : s.Beside kind := .of_element hmapping hnone
      rw [Scan.run_append, run_readable (isReadable_of_charactersOf? i.before_eq) hbeside,
        Except.bind, run_readable (isReadable_of_charactersOf? i.after_eq) hbeside,
        run_readable (isReadable_of_charactersOf? (charactersOf?_whole i)) hbeside]
      rfl
  · rw [Bool.not_eq_true] at hmapping
    rw [Scan.run_append, run_outside hmapping, Except.bind, run_outside hmapping,
      run_outside hmapping]
    rfl

/-! ### Interrupted descriptors -/

/-- What runs in the same way up to some point is looked at from there. -/
theorem EndAlike.behind {s : Scan} (before : List Xml.Event) {after after' : List Xml.Event}
    (h : ∀ t, Scan.run kind name s before = .ok t →
      EndAlike (Scan.run kind name t after) (Scan.run kind name t after')) :
    EndAlike (Scan.run kind name s (before ++ after))
      (Scan.run kind name s (before ++ after')) := by
  rw [Scan.run_append, Scan.run_append]
  cases hrun : Scan.run kind name s before with
  | error e => rfl
  | ok t => exact h t hrun

/-- Texts leave the scan in the same element. -/
theorem Scan.element_of_texts {s t : Scan} {contents : List Bytes}
    (h : Scan.run kind name s (contents.map .text) = .ok t) :
    t.inMapping = s.inMapping ∧ t.element = s.element := by
  induction contents generalizing s with
  | nil =>
    obtain rfl := Except.ok.inj h
    exact ⟨rfl, rfl⟩
  | cons content contents ih =>
    rw [List.map_cons, run] at h
    split at h
    · next u hstep =>
      obtain ⟨mappedName, patterns, rfl⟩ := exists_of_step_text hstep
      have hrest := ih h
      exact hrest
    · exact absurd h (by simp)

/-- Behind an end tag, the scan is in no element. -/
theorem Scan.element_of_endTag {s t : Scan} (before : List Xml.Event) {tag : Bytes}
    (h : Scan.run kind name s (before ++ [.endTag tag]) = .ok t) : t.element = none := by
  rw [run_append] at h
  cases hrun : Scan.run kind name s before with
  | error e =>
    rw [hrun] at h
    exact absurd h (by simp [Except.bind])
  | ok u =>
    rw [hrun, Except.bind, run_singleton] at h
    exact element_of_step_endTag h

/-- Behind a start tag, the scan is within the element. -/
theorem Scan.within_of_startTag {s t : Scan} {tag : Bytes}
    (h : Scan.run kind name s [.startTag tag] = .ok t) : t.Within part (some tag) := by
  intro htag hmapping
  rw [Option.some.injEq] at htag
  subst htag
  rw [run_singleton, step, if_neg (part.tag_ne_mappingTag kind)] at h
  obtain rfl := Except.ok.inj h
  by_cases hs : s.inMapping = true
  · rw [if_pos hs]
    exact .inl rfl
  · rw [if_neg hs] at hmapping
    exact absurd hmapping hs

/-- **The scan does not notice an interruption in a descriptor**, if what is read of the pieces
comes to what is read of the whole. -/
theorem endAlike_interrupted (h : Keeps i part) {parent : Option Bytes} {forest other : Forest}
    (hother : Interrupted i part.tag parent forest other) {s : Scan} (hs : s.Within part parent) :
    EndAlike (Scan.run kind name s other.events) (Scan.run kind name s forest.events) := by
  induction hother generalizing s with
  | here next =>
    have hcut : (i.cut next).events = ((Forest.readText i.before).map .text ++
        (Forest.readText i.after).map .text) ++ next.events := (List.append_assoc ..).symm
    rw [hcut]
    exact (endAlike_cut h hs).append next.events
  | text content _ ih =>
    refine .behind _ fun t ht => ih fun hparent hmapping => ?_
    obtain ⟨hsame, helement⟩ := Scan.element_of_texts ht
    rw [helement]
    exact hs hparent (hsame ▸ hmapping)
  | aside markup _ ih => exact ih hs
  | empty tag _ ih => exact ih hs
  | inside tag spaces next _ ih =>
    refine .behind [.startTag (localName (tagName tag))] fun t ht => ?_
    exact (ih (Scan.within_of_startTag ht)).append _
  | behind tag children spaces _ ih =>
    rw [events_element, events_element]
    refine .behind _ fun t ht => ih fun _ _ => .inr ?_
    exact Scan.element_of_endTag (.startTag _ :: children.events) ht

theorem isHarmless_of_keeps (h : Keeps i part) : IsHarmless part i := by
  intro kind name document other forest otherForest htree htree' hother
  have hpaths : filterPaths kind name other = filterPaths kind name document := by
    have hstart : Scan.Within part none {} := fun hparent => absurd hparent (by simp)
    have halike : EndAlike (Scan.run kind name {} otherForest.events)
        (Scan.run kind name {} forest.events) := endAlike_interrupted h hother hstart
    have hview : ∀ x : Except MountError Scan,
        x.map Scan.paths = (x.map Scan.view).map fun view => view.1.paths := by
      intro x
      cases x <;> rfl
    rw [filterPaths, filterPaths, htree.reads, htree'.reads, hview, hview, halike]
  exact ⟨hpaths, by rw [filterPath, filterPath, hpaths]⟩

/-! ### A descriptor that depends on the interruption -/

/-- The root of a descriptor. -/
def rootTag : Bytes := Utf8.ofString "web-app"

/-- The inside of a mapping of two parts: what the one holds, and the text of the other. -/
def parts (part : Part) (children : Forest) (other : Part) (content : Bytes) : Forest :=
  .element part.tag children [] (.element other.tag (.text content .nil) [] .nil)

/-- A descriptor with one mapping, of two parts. -/
def exampleOf (kind : MappingKind) (part : Part) (children : Forest) (other : Part)
    (content : Bytes) : Forest :=
  .element rootTag (.element kind.mappingTag (parts part children other content) [] .nil) [] .nil

theorem Part.localName_tag (part : Part) : localName (tagName part.tag) = part.tag := by
  cases part with
  | name kind => cases kind <;> decide
  | pattern => decide

theorem MappingKind.localName_mappingTag (kind : MappingKind) :
    localName (tagName kind.mappingTag) = kind.mappingTag := by
  cases kind <;> decide

theorem Part.isTag_tag (part : Part) :
    isTag part.tag = true ∧ part.tag.getLast? ≠ some slash := by
  cases part with
  | name kind => cases kind <;> decide
  | pattern => decide

theorem MappingKind.isTag_mappingTag (kind : MappingKind) :
    isTag kind.mappingTag = true ∧ kind.mappingTag.getLast? ≠ some slash := by
  cases kind <;> decide

theorem hasTree_exampleOf {children : Forest} {content : Bytes} {other : Part}
    (hchildren : children.isWellFormed = true) (hcontent : less ∉ content) :
    HasTree (exampleOf kind part children other content).render
      (exampleOf kind part children other content) := by
  refine .inl ⟨?_, .inr ⟨rfl, fun hmark => ?_⟩⟩
  · have hroot : isTag rootTag = true ∧ rootTag.getLast? ≠ some slash := by decide
    simp [exampleOf, parts, Forest.isWellFormed, Forest.beginsWithText, hroot,
      kind.isTag_mappingTag, part.isTag_tag, other.isTag_tag, hchildren, hcontent]
  · have hfirst : ((exampleOf kind part children other content).render.take 3).head? = some less :=
      rfl
    rw [hmark] at hfirst
    exact absurd hfirst (by decide)

/-- A part is scanned as what the scan remembers of its inside. -/
theorem Remembers.run_part {inside : List Xml.Event} {values : List String}
    (h : Remembers kind name part inside values) {s : Scan} (hs : s.inMapping = true)
    (hs' : s.element = none) :
    Scan.run kind name s (.startTag part.tag :: (inside ++ [.endTag part.tag])) =
      .ok (s.remember kind (part.fields values)) := by
  have hinside := h { s with element := some part.tag } hs rfl
  rw [run_element (part.tag_ne_mappingTag kind) hs hinside]
  obtain ⟨_, _, mappedName, left, paths⟩ := s
  obtain rfl : _ = none := hs'
  rfl

/-- Two parts are scanned one after the other. -/
theorem Remembers.run_parts {children : Forest} {content : Bytes} {other : Part}
    {values : List String} (h : Remembers kind name part children.events values)
    (hcontent : isReadable content = true) {s : Scan} (hs : s.inMapping = true)
    (hs' : s.element = none) :
    Scan.run kind name s (parts part children other content).events =
      .ok (s.remember kind (part.fields values ++ other.fields (readings content))) := by
  have hthen : Scan.run kind name (s.remember kind (part.fields values))
      (.startTag other.tag ::
        ((Forest.readText content).map .text ++ [.endTag other.tag])) = _ :=
    (remembers_readings hcontent).run_part hs hs'
  rw [parts, events_element, events_element, part.localName_tag, other.localName_tag,
    Scan.run_append, h.run_part hs hs', Except.bind, Scan.remember_append, ← hthen]
  simp only [Forest.events, List.append_nil]

/-- The example has the filter paths of what the scan remembers of the two parts. -/
theorem filterPaths_exampleOf {children : Forest} {content : Bytes} {other : Part}
    {values : List String}
    (hreads : Reads (exampleOf kind part children other content).render
      (exampleOf kind part children other content))
    (hremembers : Remembers kind name part children.events values)
    (hcontent : isReadable content = true) :
    filterPaths kind name (exampleOf kind part children other content).render =
      addPatterns []
        (patternsFor kind name (part.fields values ++ other.fields (readings content))) := by
  have hroot : rootTag ≠ kind.mappingTag := by cases kind <;> decide
  have hlocal : localName (tagName rootTag) = rootTag := by decide
  have hmapping : Scans kind name (.startTag kind.mappingTag ::
      ((parts part children other content).events ++ [.endTag kind.mappingTag])) _ :=
    scans_mapping_of_run fun _ hs hs' => hremembers.run_parts hcontent hs hs'
  have hscans := ((scans_startTag hroot).append hmapping).append (scans_endTag hroot)
  rw [List.nil_append, List.append_nil] at hscans
  obtain ⟨mappedName, left, hrun⟩ := hscans {} rfl rfl
  rw [filterPaths, hreads, exampleOf, events_element, events_element, hlocal,
    kind.localName_mappingTag, Forest.events, List.append_nil, List.append_nil]
  refine (congrArg (Except.map Scan.paths) hrun).trans ?_
  generalize part.fields values ++ other.fields (readings content) = scanned
  change ((addPatterns [] (patternsFor kind name scanned)).map _).map _ = _
  cases addPatterns [] (patternsFor kind name scanned) <;> rfl

/-- What is read of an interrupted part shows in the filter paths of the examples. -/
theorem addPatterns_of_isHarmless (h : IsHarmless part i) (kind : MappingKind) (name : String)
    (other : Part) (content : Bytes) (hcontent : isReadable content = true)
    (hless : less ∉ content) :
    addPatterns []
        (patternsFor kind name (part.fields (pieces i) ++ other.fields (readings content))) =
      addPatterns []
        (patternsFor kind name
          (part.fields (readings i.whole) ++ other.fields (readings content))) := by
  have hmem : less ∉ i.whole := i.less_not_mem
  have hpieces : (less ∉ i.before ∧ less ∉ i.lost) ∧ less ∉ i.after := by
    simpa [and_assoc] using i.less_not_mem
  have hwhole : HasTree _ (exampleOf kind part (.text i.whole .nil) other content) :=
    hasTree_exampleOf (by simp [Forest.isWellFormed, Forest.beginsWithText, hmem]) hless
  have hcut : HasTree _ (exampleOf kind part (i.cut .nil) other content) :=
    hasTree_exampleOf (by simp [Interruption.cut, Forest.isWellFormed, Forest.beginsWithText,
      hpieces, i.markup_isWellFormed]) hless
  have hhere : Interrupted i part.tag (some (localName (tagName part.tag)))
      (.text i.whole .nil) (i.cut .nil) := by
    rw [part.localName_tag]
    exact .here .nil
  have hsame := (h kind name _ _ _ _ hwhole hcut
    (.inside _ _ _ (.inside _ _ _ (.inside _ _ _ hhere)))).1
  have hwholeEvents : Remembers kind name part (Forest.text i.whole .nil).events
      (readings i.whole) := by
    rw [Forest.events, Forest.events, List.append_nil]
    exact remembers_whole i
  have hcutEvents : Remembers kind name part (i.cut .nil).events (pieces i) := by
    rw [Interruption.cut, Forest.events, Forest.events, Forest.events, Forest.events,
      List.append_nil]
    exact remembers_pieces i
  rw [filterPaths_exampleOf hcut.reads hcutEvents hcontent,
    filterPaths_exampleOf hwhole.reads hwholeEvents hcontent] at hsame
  exact hsame

theorem patternsFor_name (values patterns : List String) :
    patternsFor kind name ((Part.name kind).fields values ++ Part.pattern.fields patterns) =
      if values.getLast? = some name then patterns else [] := by
  simp [patternsFor, valuesOf_append, Part.valuesOf_fields, Part.tag, tags_ne, (tags_ne kind).symm]

theorem patternsFor_pattern (values : List String) :
    patternsFor kind name (Part.pattern.fields values ++ (Part.name kind).fields [name]) =
      values := by
  simp [patternsFor, valuesOf_append, Part.valuesOf_fields, Part.tag, tags_ne, (tags_ne kind).symm]

/-- **An interruption that the scan does not notice keeps what is read.** -/
theorem keeps_of_isHarmless (h : IsHarmless part i) : Keeps i part := by
  cases part with
  | name kind =>
    have hreadings : readings (Utf8.ofString "/*") = ["/*"] := by decide
    -- the example has a filter path exactly if the last text is the name
    have hlast : ∀ values : List String, ∀ name,
        addPatterns [] (if values.getLast? = some name then ["/*"] else []) = .ok [""] ↔
          values.getLast? = some name := by
      intro values name
      split
      · next hname => exact iff_of_true rfl hname
      · next hname => exact iff_of_false (fun hok => by simp [addPatterns] at hok) hname
    refine Option.ext fun name => ?_
    have hpaths := addPatterns_of_isHarmless h kind name .pattern (Utf8.ofString "/*") (by decide)
      (by decide)
    rw [hreadings, patternsFor_name, patternsFor_name] at hpaths
    exact ((hlast _ name).symm.trans (by rw [hpaths])).trans (hlast _ name)
  | pattern =>
    have hreadings : readings (Utf8.ofString "Shop") = ["Shop"] := by decide
    have hpaths := addPatterns_of_isHarmless h .filter "Shop" (.name .filter)
      (Utf8.ofString "Shop") (by decide) (by decide)
    rw [hreadings, patternsFor_pattern, patternsFor_pattern] at hpaths
    exact hpaths

/-! ### Where an interruption is noticed -/

/-- **An interruption among the spaces at the ends keeps what is read.** -/
theorem keeps_of_atEdge (h : AtEdge i) (part : Part) : Keeps i part := by
  have hnone : ∀ b ∈ ([] : Bytes), isSpace b = true := fun b hb => absurd hb List.not_mem_nil
  have hsame : pieces i = readings i.whole := by
    obtain ⟨hlost, hbefore | hafter⟩ := h
    · have hfirst : ∀ b ∈ i.before ++ i.lost, isSpace b = true :=
        fun b hb => (List.mem_append.mp hb).elim (hbefore b) (hlost b)
      rw [pieces, readings_of_spaces hbefore, List.nil_append, Interruption.whole,
        ← readings_append hfirst hnone, List.append_nil]
    · have hlast : ∀ b ∈ i.lost ++ i.after, isSpace b = true :=
        fun b hb => (List.mem_append.mp hb).elim (hlost b) (hafter b)
      rw [pieces, readings_of_spaces hafter, List.append_nil, Interruption.whole,
        ← readings_append hnone hlast, List.nil_append, List.append_assoc]
  cases part with
  | name kind => rw [Keeps, hsame]
  | pattern => rw [Keeps, hsame]

theorem mem_readings {content : Bytes} {text : List Char} (h : charactersOf? content = some text)
    {value : String} (hvalue : value ∈ readings content) : value = String.ofList (trim text) := by
  by_cases hspaces : ∀ b ∈ content, isSpace b = true
  · rw [readings_of_spaces hspaces] at hvalue
    exact absurd hvalue List.not_mem_nil
  · rw [readings_eq_singleton h hspaces] at hvalue
    exact List.mem_singleton.mp hvalue

/-- Of cut text no piece is read as the whole. -/
theorem not_mem_pieces (h : CutsText i) : String.ofList (trim i.text) ∉ pieces i := by
  intro hmem
  -- the piece has as many characters that are not blank as the whole
  have hcount : ∀ {text : List Char}, String.ofList (trim i.text) = String.ofList (trim text) →
      i.text.countP (fun c => !isBlank c) = text.countP fun c => !isBlank c := by
    intro text heq
    rw [List.countP_eq_length_filter, ← filter_trim, String.ofList_injective heq, filter_trim,
      List.countP_eq_length_filter]
  have hpos : ∀ {text : List Char}, (∃ c ∈ text, isBlank c = false) →
      0 < text.countP fun c => !isBlank c := by
    rintro text ⟨c, hc, hblank⟩
    exact List.countP_pos_iff.mpr ⟨c, hc, by rw [hblank]; rfl⟩
  have hsum : i.text.countP (fun c => !isBlank c) =
      i.beforeText.countP (fun c => !isBlank c) + i.lostText.countP (fun c => !isBlank c) +
        i.afterText.countP (fun c => !isBlank c) := by
    rw [Interruption.text, List.countP_append, List.countP_append]
  rcases List.mem_append.mp hmem with hbefore | hafter
  · have hsame := hcount (mem_readings i.before_eq hbefore)
    rcases h with hlost | ⟨-, hafter⟩
    · have hmarks := hpos hlost
      omega
    · have hmarks := hpos hafter
      omega
  · have hsame := hcount (mem_readings i.after_eq hafter)
    rcases h with hlost | ⟨hbefore, -⟩
    · have hmarks := hpos hlost
      omega
    · have hmarks := hpos hbefore
      omega

/-- Patterns that add the same as one pattern have it among them. -/
theorem mem_of_addPatterns_eq {patterns : List String} {pattern : String}
    (hpatterns : ∀ q ∈ patterns, Trimmed q.toList) (hpattern : Trimmed pattern.toList)
    (h : addPatterns [] patterns = addPatterns [] [pattern]) : pattern ∈ patterns := by
  have hadd := addPatterns_eq hpatterns []
  rw [List.eraseDups_nil, List.nil_append, h] at hadd
  rcases ofUrlPattern_cases pattern with ⟨path, hpath⟩ | hfault
  · have hone : addPatterns [] [pattern] = .ok [path] := by
      rw [addPatterns, hpath]
      rfl
    rw [hone] at hadd
    split at hadd
    · exact absurd hadd (by simp)
    · have hpaths : (patterns.filterMap pathOf?).eraseDups = [path] := (Except.ok.inj hadd).symm
      have hmem : path ∈ patterns.filterMap pathOf? := by
        rw [← List.mem_eraseDups, hpaths]
        exact List.mem_singleton_self path
      -- a pattern is known by its path
      obtain ⟨q, hq, hqpath⟩ := List.mem_filterMap.mp hmem
      have htext := (ofUrlPattern_eq_ok_iff.mp hpath).1
      have hqtext := (ofUrlPattern_eq_ok_iff.mp (pathOf?_eq_some_iff.mp hqpath)).1
      rw [trim_eq_self hpattern] at htext
      rw [trim_eq_self (hpatterns q hq), ← htext] at hqtext
      rwa [← String.toList_inj.mp hqtext]
  · rw [trim_eq_self hpattern, String.ofList_toList] at hfault
    rw [addPatterns, hfault] at hadd
    dsimp only at hadd
    split at hadd
    · next q hfind =>
      rw [Except.error.injEq, MountError.unsupportedPattern.injEq] at hadd
      rw [hadd]
      exact List.mem_of_find?_eq_some hfind
    · exact absurd hadd (by simp)

theorem trimmed_of_mem_readings {content : Bytes} {value : String} (h : value ∈ readings content) :
    Trimmed value.toList := by
  obtain ⟨text, -, htext⟩ := List.mem_filterMap.mp h
  exact trimmed_of_textOf? htext

/-- **Cut text is not kept.** -/
theorem not_keeps_of_cutsText (h : CutsText i) (part : Part) : ¬Keeps i part := by
  have hspaces : ¬∀ b ∈ i.whole, isSpace b = true := by
    intro hspaces
    obtain ⟨blanks, hblanks, hblank⟩ := exists_charactersOf?_spaces hspaces
    obtain rfl := Option.some.inj ((charactersOf?_whole i).symm.trans hblanks)
    have hnot : ∀ c ∈ i.text, ¬isBlank c = false := fun c hc => by simp [hblank c hc]
    rcases h with ⟨c, hc, hmark⟩ | ⟨⟨c, hc, hmark⟩, -⟩
    · exact hnot c (by simp [Interruption.text, hc]) hmark
    · exact hnot c (by simp [Interruption.text, hc]) hmark
  have hwhole := readings_eq_singleton (charactersOf?_whole i) hspaces
  intro hkeeps
  refine not_mem_pieces h ?_
  cases part with
  | name kind =>
    rw [Keeps, hwhole, List.getLast?_singleton] at hkeeps
    exact List.mem_of_getLast? hkeeps
  | pattern =>
    rw [Keeps, hwhole] at hkeeps
    refine mem_of_addPatterns_eq (fun q hq => ?_) ?_ hkeeps
    · exact (List.mem_append.mp hq).elim trimmed_of_mem_readings trimmed_of_mem_readings
    · rw [String.toList_ofList]
      exact trimmed_trim i.text

end Texts

/-- **Which interruptions the scan does not notice.** Take a comment in the character data of a name
or a pattern, or a section in place of a part of it. The filter paths are those of the descriptor
without it, for every descriptor, every place in it, every kind of mapping and every name, if and
only if what is read of the pieces comes to what is read of the whole. So it is among the spaces in
front of the character data and behind it, but not where it cuts text off. -/
theorem interruption_harmless_iff (part : Part) (i : Interruption) :
    (IsHarmless part i ↔ Keeps i part) ∧ (AtEdge i → IsHarmless part i) ∧
      (CutsText i → ¬IsHarmless part i) := by
  refine ⟨⟨keeps_of_isHarmless, isHarmless_of_keeps⟩, fun hedge => ?_, fun hcuts hharmless => ?_⟩
  · exact isHarmless_of_keeps (keeps_of_atEdge hedge part)
  · exact not_keeps_of_cutsText hcuts part (keeps_of_isHarmless hharmless)

/-- A comment in the name of a shop. -/
def commentInside : Interruption where
  before := Utf8.ofString "Sh"
  lost := []
  after := Utf8.ofString "op"
  markup := .comment (Utf8.ofString " x ")
  beforeText := ['S', 'h']
  lostText := []
  afterText := ['o', 'p']
  before_eq := by decide
  lost_eq := by decide
  after_eq := by decide
  markup_eq := rfl
  markup_isWellFormed := by decide
  less_not_mem := by decide

/-- A comment in front of the name of a shop. -/
def commentInFront : Interruption where
  before := Utf8.ofString " "
  lost := []
  after := Utf8.ofString "Shop"
  markup := .comment (Utf8.ofString " x ")
  beforeText := [' ']
  lostText := []
  afterText := ['S', 'h', 'o', 'p']
  before_eq := by decide
  lost_eq := by decide
  after_eq := by decide
  markup_eq := rfl
  markup_isWellFormed := by decide
  less_not_mem := by decide

/-- The comment in front of the name is not noticed, and the one inside it is. -/
theorem interruption_harmless_iff_shop :
    IsHarmless (.name .filter) commentInFront ∧ ¬IsHarmless (.name .filter) commentInside := by
  have hedge : AtEdge commentInFront :=
    ⟨List.all_eq_true.mp (by decide), .inl (List.all_eq_true.mp (by decide))⟩
  have hcuts : CutsText commentInside :=
    .inr ⟨⟨'S', by decide, by decide⟩, ⟨'o', by decide, by decide⟩⟩
  exact ⟨(interruption_harmless_iff _ commentInFront).2.1 hedge,
    (interruption_harmless_iff _ commentInside).2.2 hcuts⟩

/-- With a comment inside its name, or with its name in a section, a mapping is not found. -/
theorem filterPaths_of_interrupted_name :
    let document (name : String) : Bytes :=
      Utf8.ofString "<web-app><filter-mapping><filter-name>" ++ Utf8.ofString name ++
        Utf8.ofString "</filter-name><url-pattern>/a/*</url-pattern></filter-mapping></web-app>"
    (filterPaths .filter "Shop" (document "Shop")).toOption = some ["a/"] ∧
      (filterPaths .filter "Shop" (document "Sh<!-- x -->op")).toOption = some [] ∧
      (filterPaths .filter "Shop" (document "<![CDATA[Shop]]>")).toOption = some [] := by
  decide +kernel

end WebMount.Mount.Descriptor
