import WebMount.Proofs.Mount.FilterPath
import WebMount.Proofs.Mount.Written

/-!
# Sources of the filter path that agree

A mount is answered for through the filter paths that its source gives (`perform_congr`), and so two
sources that give the same one are answered for alike, whatever they look like. A url pattern that
stands for a filter path, taken for a path, is that filter path (`canonicalFilterPath_of_pattern`),
and every canonical form has a url pattern (`ofUrlPattern_patternOf`). A descriptor with one pattern
comes to that pattern (`sourcePath_descriptor`). A filter path that is put in by hand is refused or
asked for differently only by operations that look whether there is one.
-/

namespace WebMount.Mount

open WebMount.Text

/-! ### What the sources give -/

/-- A descriptor is stored that gives the name just one pattern, which is the text. -/
def StoresOnly (kind : Descriptor.MappingKind) (name file pattern : String) (files : Storage) :
    Prop :=
  ∃ document modified, files.open? file = .ok (.regular document modified) ∧
    Descriptor.DeclaresOnly kind name pattern document

theorem sourcePath_eq_getD (files : Storage) (source : MountSource) :
    sourcePath files source = (sourcePath? files source).toOption.getD "" := by
  rw [sourcePath]
  cases sourcePath? files source <;> rfl

theorem sourcePath_explicit (files : Storage) (path : String) :
    sourcePath files (.explicit path) = canonicalFilterPath path :=
  rfl

theorem sourcePath_urlPattern (files : Storage) {pattern path : String}
    (h : ofUrlPattern pattern = .ok path) : sourcePath files (.urlPattern pattern) = path := by
  rw [sourcePath, sourcePath?, h]

/-- **Every filter path that ends with a slash has a url pattern.** -/
theorem ofUrlPattern_patternOf {path : String} (h : IsDirectory path) :
    ofUrlPattern (patternOf path) = .ok path := by
  have htrimmed : Trimmed (patternOf path).toList := by
    rw [toList_patternOf]
    refine ⟨fun c hc => ?_, fun c hc => ?_⟩
    · obtain rfl := Option.some.inj hc
      decide
    · rw [← List.cons_append, List.getLast?_concat] at hc
      obtain rfl := Option.some.inj hc
      decide
  exact ofUrlPattern_eq_ok_iff.mpr ⟨trim_eq_self htrimmed, h⟩

/-- **A descriptor with one pattern gives what the pattern gives**, be it a filter path or none. -/
theorem sourcePath_descriptor {kind : Descriptor.MappingKind} {name file pattern : String}
    {files : Storage} (h : StoresOnly kind name file pattern files) :
    sourcePath files (.descriptor kind name file) = sourcePath files (.urlPattern pattern) := by
  obtain ⟨document, modified, hopen, hdeclares⟩ := h
  have hgiven : sourcePath? files (.descriptor kind name file) =
      Descriptor.filterPath kind name document := by
    rw [sourcePath?, Descriptor.filterPathIn, hopen]
  rw [sourcePath_eq_getD, sourcePath_eq_getD, hgiven,
    Descriptor.filterPath_of_declaresOnly hdeclares]
  rfl

/-! ### What a mount answers -/

/-- **All sources of a filter path agree.** Take any context path and any history of operations on
the mount, with files that may change between them. For a pattern that stands for a filter path, the
answers are the same if the mount is given the pattern, the trimmed pattern as a path, or a
descriptor with that pattern alone, and those that ask for an address are the same too if the
trimmed pattern is put in by hand. Conversely each path that is given has a url pattern instead of
which it may stand. A pattern that stands for no filter path leaves the mount at the root, given as
it is or by a descriptor. -/
theorem sources_agree (context pattern : String) (history : List (Storage × Operation)) :
    let answers (source : MountSource) : List Answer :=
      ((create context source).perform history).1
    (∀ path, ofUrlPattern pattern = .ok path →
      answers (.explicit (trimmed pattern)) = answers (.urlPattern pattern) ∧
      (∃ m, (create context .root).fix (trimmed pattern) = .ok m ∧
        ((∀ input ∈ history, input.2.asks = true) →
          (m.perform history).1 = answers (.urlPattern pattern))) ∧
      ∀ kind name file, (∀ input ∈ history, StoresOnly kind name file pattern input.1) →
        answers (.descriptor kind name file) = answers (.urlPattern pattern)) ∧
    (∀ path,
      ofUrlPattern ("/" ++ canonicalFilterPath path ++ "*") = .ok (canonicalFilterPath path) ∧
      answers (.urlPattern ("/" ++ canonicalFilterPath path ++ "*")) = answers (.explicit path)) ∧
    ((∀ path, ofUrlPattern pattern ≠ .ok path) →
      answers (.urlPattern pattern) = answers .root ∧
      ∀ kind name file, (∀ input ∈ history, StoresOnly kind name file pattern input.1) →
        answers (.descriptor kind name file) = answers .root) := by
  intro answers
  have hagree : ∀ {source other : MountSource},
      (∀ input ∈ history, sourcePath input.1 source = sourcePath input.1 other) →
        answers source = answers other :=
    fun h => perform_congr rfl rfl rfl h
  have hdescriptor : ∀ kind name file,
      (∀ input ∈ history, StoresOnly kind name file pattern input.1) →
        answers (.descriptor kind name file) = answers (.urlPattern pattern) :=
    fun kind name file h => hagree fun input hinput => sourcePath_descriptor (h input hinput)
  refine ⟨fun path hpath => ?_, fun path => ?_, fun hrejected => ?_⟩
  · have hpattern : ∀ files, sourcePath files (.urlPattern pattern) = path :=
      fun files => sourcePath_urlPattern files hpath
    have hexplicit := canonicalFilterPath_of_pattern hpath
    refine ⟨hagree fun input _ => ?_,
      ⟨{ create context .root with fixed := some path }, ?_, fun hasks => ?_⟩, hdescriptor⟩
    · rw [hpattern, sourcePath_explicit, hexplicit]
    · rw [← hexplicit]
      rfl
    · have hm : ({ create context .root with fixed := some path } : Mount).fixed = some path := rfl
      have hasked : answers (.urlPattern pattern) = _ :=
        perform_of_asks (m := create context (.urlPattern pattern)) rfl hasks
          fun input _ => hpattern input.1
      rw [perform_fst_of_fixed hm, hasked]
      rfl
  · have hpath := ofUrlPattern_patternOf (isDirectory_canonicalFilterPath path)
    refine ⟨hpath, hagree fun input _ => ?_⟩
    rw [sourcePath_explicit, ← patternOf, sourcePath_urlPattern input.1 hpath]
  · have hroot : answers (.urlPattern pattern) = answers .root := by
      refine hagree fun input _ => ?_
      rw [sourcePath, sourcePath?]
      cases hpattern : ofUrlPattern pattern with
      | ok path => exact absurd hpattern (hrejected path)
      | error e => rfl
    exact ⟨hroot, fun kind name file h => (hdescriptor kind name file h).trans hroot⟩

/-- A descriptor with an escaped pattern that has blanks around it, and the trimmed pattern as a
path: a request for the mount is sent on to its inside. -/
theorem sources_agree_escaped :
    let field (tag text : String) : Xml.Forest → Xml.Forest :=
      .element (Utf8.ofString tag) (.text (Utf8.ofString text) .nil) []
    let mapping := field "filter-name" "Shop" (field "url-pattern" " /a&amp;b/* " .nil)
    let descriptor : Xml.Forest :=
      .element (Utf8.ofString "web-app")
        (.element (Utf8.ofString "filter-mapping") mapping [] .nil) [] .nil
    let files : Storage := Storage.insert {} "/web.xml" (.file descriptor.render (.ofSeconds 0))
    let history : List (Storage × Operation) :=
      [(files, .redirect "/ctx/a&b" "q=1"), (files, .relative "/ctx/a&b"), (files, .filterPath)]
    let source : MountSource := .descriptor .filter "Shop" "/web.xml"
    ((create "ctx" source).perform history).1 =
        [.maybe (some "/ctx/a&b/?q=1"), .maybe none, .text "a&b/"] ∧
      ((create "ctx" (.explicit "/a&b/*")).perform history).1 =
        ((create "ctx" source).perform history).1 := by
  intro field mapping descriptor files history source
  have hpattern : ofUrlPattern " /a&b/* " = .ok "a&b/" := rfl
  have hstores : StoresOnly .filter "Shop" "/web.xml" " /a&b/* " files :=
    ⟨descriptor.render, .ofSeconds 0, rfl, descriptor, Utf8.ofString " /a&amp;b/* ",
      .inl ⟨rfl, .inr ⟨rfl, by decide +kernel⟩⟩, by decide +kernel, by decide +kernel,
      by decide +kernel⟩
  have hstored : ∀ input ∈ history, StoresOnly .filter "Shop" "/web.xml" " /a&b/* " input.1 := by
    have hfiles : ∀ input ∈ history, input.1 = files := by simp [history]
    intro input hinput
    rw [hfiles input hinput]
    exact hstores
  obtain ⟨haccepted, -, -⟩ := sources_agree "ctx" " /a&b/* " history
  obtain ⟨hexplicit, -, hdescriptor⟩ := haccepted "a&b/" hpattern
  have hsource := hdescriptor .filter "Shop" "/web.xml" hstored
  refine ⟨hsource.trans ?_, hexplicit.trans hsource.symm⟩
  decide +kernel

end WebMount.Mount
