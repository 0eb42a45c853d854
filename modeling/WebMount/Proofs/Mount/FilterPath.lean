import WebMount.Proofs.Mount.Declaration
import WebMount.Proofs.Mount.History

/-!
# Filter paths in canonical form

Every filter path that a mount can have comes out of `canonicalFilterPath`: an explicit path, a path
fixed by hand and a failed source by definition, and the path of a url pattern because a pattern
that is accepted is its path between a slash and a star (`ofUrlPattern_eq_ok_iff`), also where the
pattern is declared in a descriptor (`Descriptor.exists_pattern_of_filterPathIn`). So a filter path
always is empty or ends with a slash. What is given may begin with two slashes, though, of which
only one is dropped: the filter path is canonical, and is left as it is when it is made canonical
once more, exactly if this is not so (`filterPath_canonical_iff`).
-/

namespace WebMount.Mount

open WebMount.Text

/-! ### Two conditions on paths -/

/-- The path is empty or ends with a slash. -/
def IsDirectory (path : String) : Prop :=
  path = "" ∨ path.toList.getLast? = some '/'

/-- The path is empty, or it ends with a slash and does not begin with one. -/
def IsCanonical (path : String) : Prop :=
  path = "" ∨ path.toList.head? ≠ some '/' ∧ path.toList.getLast? = some '/'

/-- The text begins with two slashes. -/
def BeginsTwice (text : String) : Prop :=
  ['/', '/'] <+: text.toList

instance (path : String) : Decidable (IsCanonical path) :=
  inferInstanceAs (Decidable (_ ∨ _ ∧ _))

instance (text : String) : Decidable (BeginsTwice text) :=
  inferInstanceAs (Decidable (_ <+: _))

theorem isCanonical_iff {path : String} (h : IsDirectory path) :
    IsCanonical path ↔ path.toList.head? ≠ some '/' := by
  constructor
  · rintro (rfl | ⟨hhead, -⟩)
    · decide
    · exact hhead
  · intro hhead
    exact h.imp_right fun hlast => ⟨hhead, hlast⟩

/-! ### The canonical form -/

/-- A text without a star at its end. -/
def withoutStar (text : List Char) : List Char :=
  (dropEnd? ['*'] text).getD text

/-- A text with a slash at its end, unless it is empty. -/
def closed (text : List Char) : List Char :=
  if text = [] ∨ text.getLast? = some '/' then text else text ++ ['/']

theorem withoutStar_append (text : List Char) : withoutStar (text ++ ['*']) = text := by
  rw [withoutStar, dropEnd?_eq_some.mpr rfl, Option.getD_some]

theorem withoutStar_eq_self {text : List Char} (h : text.getLast? ≠ some '*') :
    withoutStar text = text := by
  rw [withoutStar]
  cases hdrop : dropEnd? ['*'] text with
  | none => rfl
  | some stem => exact absurd (by rw [dropEnd?_eq_some.mp hdrop]; simp) h

theorem head?_withoutStar (text : List Char) :
    (withoutStar text).head? = some '/' ↔ text.head? = some '/' := by
  rw [withoutStar]
  cases hdrop : dropEnd? ['*'] text with
  | none => rfl
  | some stem =>
    rw [dropEnd?_eq_some.mp hdrop, Option.getD_some]
    cases stem with
    | nil => simp
    | cons c stem => rfl

theorem head?_closed (text : List Char) : (closed text).head? = text.head? := by
  rw [closed]
  split
  · rfl
  · next h =>
    rw [not_or] at h
    obtain ⟨c, rest, rfl⟩ := List.exists_cons_of_ne_nil h.1
    rfl

theorem closed_eq_self {path : String} (h : IsDirectory path) :
    closed path.toList = path.toList :=
  if_pos (h.imp_left fun hnil => by rw [hnil]; rfl)

/-- A slash at the front is dropped. -/
theorem toList_canonicalFilterPath_of_slash {path : String} {rest : List Char}
    (h : path.toList = '/' :: rest) :
    (canonicalFilterPath path).toList = closed (withoutStar rest) := by
  have hdrop : dropStart? ['/'] ('/' :: rest) = some rest := dropStart?_eq_some.mpr rfl
  rw [canonicalFilterPath, h, hdrop]
  simp only [Option.getD_some]
  rw [← withoutStar, closed]
  split <;> exact String.toList_ofList

/-- What has no slash at its front stays there. -/
theorem toList_canonicalFilterPath {path : String} (h : path.toList.head? ≠ some '/') :
    (canonicalFilterPath path).toList = closed (withoutStar path.toList) := by
  have hdrop : dropStart? ['/'] path.toList = none := by
    rw [Option.eq_none_iff_forall_ne_some]
    intro rest hrest
    exact h (by rw [dropStart?_eq_some.mp hrest]; rfl)
  rw [canonicalFilterPath, hdrop]
  simp only [Option.getD_none]
  rw [← withoutStar, closed]
  split <;> exact String.toList_ofList

/-- The canonical form in either case. -/
theorem exists_closed (path : String) :
    ∃ text, (canonicalFilterPath path).toList = closed text := by
  by_cases h : path.toList.head? = some '/'
  · obtain ⟨rest, hrest⟩ := List.head?_eq_some_iff.mp h
    exact ⟨_, toList_canonicalFilterPath_of_slash hrest⟩
  · exact ⟨_, toList_canonicalFilterPath h⟩

/-- **What is made canonical is empty or ends with a slash.** -/
theorem isDirectory_canonicalFilterPath (path : String) :
    IsDirectory (canonicalFilterPath path) := by
  obtain ⟨text, htext⟩ := exists_closed path
  rw [IsDirectory, ← String.toList_inj, htext, closed]
  split
  · next h => exact h
  · exact .inr List.getLast?_concat

/-- **What is made canonical begins with a slash exactly if two slashes were there.** -/
theorem head?_canonicalFilterPath (path : String) :
    (canonicalFilterPath path).toList.head? = some '/' ↔ BeginsTwice path := by
  by_cases h : path.toList.head? = some '/'
  · obtain ⟨rest, hrest⟩ := List.head?_eq_some_iff.mp h
    rw [toList_canonicalFilterPath_of_slash hrest, head?_closed, head?_withoutStar, BeginsTwice,
      hrest, List.cons_prefix_cons, List.singleton_prefix_iff_head?_eq_some]
    exact (and_iff_right rfl).symm
  · rw [toList_canonicalFilterPath h, head?_closed, head?_withoutStar]
    refine iff_of_false h fun htwice => h ?_
    obtain ⟨rest, hrest⟩ := htwice
    rw [← hrest]
    rfl

theorem isCanonical_canonicalFilterPath_iff (path : String) :
    IsCanonical (canonicalFilterPath path) ↔ ¬BeginsTwice path := by
  rw [isCanonical_iff (isDirectory_canonicalFilterPath path)]
  exact not_congr (head?_canonicalFilterPath path)

/-- A directory behind a slash is that directory. -/
theorem canonicalFilterPath_of_slash {text path : String} (h : IsDirectory path)
    (htext : text.toList = '/' :: path.toList) : canonicalFilterPath text = path := by
  have hlast : path.toList.getLast? ≠ some '*' := by
    rcases h with rfl | hlast
    · decide
    · rw [hlast]
      decide
  rw [← String.toList_inj, toList_canonicalFilterPath_of_slash htext, withoutStar_eq_self hlast,
    closed_eq_self h]

/-- **A directory is left as it is exactly if it does not begin with a slash.** -/
theorem canonicalFilterPath_eq_self_iff {path : String} (h : IsDirectory path) :
    canonicalFilterPath path = path ↔ path.toList.head? ≠ some '/' := by
  constructor
  · intro hself hhead
    obtain ⟨rest, hrest⟩ := List.head?_eq_some_iff.mp hhead
    -- what follows the slash is a directory too, and comes out instead of the path
    have hrestDirectory : IsDirectory (String.ofList rest) := by
      rw [IsDirectory, ← String.toList_inj, String.toList_ofList]
      cases rest with
      | nil => exact .inl rfl
      | cons c rest =>
        refine h.elim (fun hnil => absurd hrest (by simp [hnil])) fun hlast => .inr ?_
        rwa [hrest, List.getLast?_cons_cons] at hlast
    have hshort : canonicalFilterPath path = String.ofList rest :=
      canonicalFilterPath_of_slash hrestDirectory (by rw [hrest, String.toList_ofList])
    have hlength := congrArg (fun p => p.toList.length) (hself.symm.trans hshort)
    rw [hrest, String.toList_ofList, List.length_cons] at hlength
    omega
  · intro hhead
    have hlast : path.toList.getLast? ≠ some '*' := by
      rcases h with rfl | hlast
      · decide
      · rw [hlast]
        decide
    rw [← String.toList_inj, toList_canonicalFilterPath hhead, withoutStar_eq_self hlast,
      closed_eq_self h]

/-! ### Url patterns -/

/-- The url pattern that stands for a filter path. -/
def patternOf (path : String) : String :=
  "/" ++ path ++ "*"

theorem toList_patternOf (path : String) :
    (patternOf path).toList = '/' :: (path.toList ++ ['*']) := by
  rw [patternOf, String.toList_append, String.toList_append]
  rfl

/-- **A url pattern stands for a path exactly if it is the path between a slash and a star, apart
from blanks around it, and the path is empty or ends with a slash.** -/
theorem ofUrlPattern_eq_ok_iff {pattern path : String} :
    ofUrlPattern pattern = .ok path ↔
      trim pattern.toList = (patternOf path).toList ∧ IsDirectory path := by
  rw [ofUrlPattern, toList_patternOf]
  generalize trim pattern.toList = text
  constructor
  · intro h
    split at h
    · next rest stem hdrop =>
      rw [Except.ok.injEq] at h
      rw [dropEnd?_eq_some] at hdrop
      rw [← h, IsDirectory, ← String.toList_inj, String.toList_ofList]
      cases stem with
      | nil =>
        obtain rfl : rest = ['*'] := (List.cons.inj hdrop).2
        exact ⟨rfl, .inl rfl⟩
      | cons c stem =>
        obtain rfl : rest = (stem ++ ['/']) ++ ['*'] := by
          rw [List.append_assoc]
          exact (List.cons.inj hdrop).2
        rw [List.dropLast_concat]
        exact ⟨rfl, .inr List.getLast?_concat⟩
    · exact absurd h (by simp)
  · rintro ⟨rfl, hdirectory⟩
    have hdrop : ∃ stem, dropEnd? ['/', '*'] ('/' :: (path.toList ++ ['*'])) = some stem := by
      rcases hdirectory with rfl | hlast
      · exact ⟨[], rfl⟩
      · obtain ⟨stem, hstem⟩ := List.getLast?_eq_some_iff.mp hlast
        exact ⟨'/' :: stem, dropEnd?_eq_some.mpr (by rw [hstem]; simp)⟩
    obtain ⟨stem, hstem⟩ := hdrop
    rw [hstem]
    simp only [List.dropLast_concat, String.ofList_toList]

/-- The pattern that stands for a filter path, taken for a path, is that filter path. -/
theorem canonicalFilterPath_patternOf {path : String} (h : IsDirectory path) :
    canonicalFilterPath (patternOf path) = path := by
  rw [← String.toList_inj, toList_canonicalFilterPath_of_slash (toList_patternOf path),
    withoutStar_append, closed_eq_self h]

/-- A pattern without blanks at its ends. -/
def trimmed (pattern : String) : String :=
  String.ofList (trim pattern.toList)

/-- A pattern that stands for a filter path is, as a path, that filter path. -/
theorem canonicalFilterPath_of_pattern {pattern path : String}
    (h : ofUrlPattern pattern = .ok path) : canonicalFilterPath (trimmed pattern) = path := by
  obtain ⟨htrim, hdirectory⟩ := ofUrlPattern_eq_ok_iff.mp h
  rw [trimmed, htrim, String.ofList_toList, canonicalFilterPath_patternOf hdirectory]

/-! ### What a descriptor declares -/

namespace Descriptor

variable {kind : MappingKind} {name : String}

/-- The patterns that are declared for the name in the events that the scan goes through, in
document order: those of each mapping that names it when it ends. -/
def Scan.declares (kind : MappingKind) (name : String) (s : Scan) : List Xml.Event → List String
  | [] => []
  | event :: events =>
    match s.step kind name event with
    | .error _ => []
    | .ok t =>
      (if event = .endTag kind.mappingTag ∧ s.mappedName = some name then s.patterns else [])
        ++ t.declares kind name events

/-- The first pattern that a stored descriptor declares for the name. -/
def patternIn? (files : Storage) (kind : MappingKind) (name file : String) : Option String :=
  match files.open? file with
  | .ok (.regular content _) => (Scan.declares kind name {} (Xml.events content)).head?
  | _ => none

/-- An event adds the patterns of the mapping that it ends. -/
theorem Scan.addPatterns_of_step {s t : Scan} {event : Xml.Event}
    (h : s.step kind name event = .ok t) :
    addPatterns s.paths (if event = .endTag kind.mappingTag ∧ s.mappedName = some name
      then s.patterns else []) = .ok t.paths := by
  cases event with
  | startTag tag => rw [if_neg (by simp), paths_of_step_startTag h, addPatterns]
  | text content =>
    obtain ⟨mappedName, patterns, rfl⟩ := exists_of_step_text h
    rw [if_neg (by simp), addPatterns]
  | endTag tag =>
    rw [step] at h
    by_cases htag : tag = kind.mappingTag
    · subst htag
      rw [if_pos rfl] at h
      by_cases hname : s.mappedName = some name
      · rw [if_pos hname] at h
        rw [if_pos ⟨rfl, hname⟩]
        split at h
        · next paths hpaths =>
          obtain rfl := Except.ok.inj h
          exact hpaths
        · exact absurd h (by simp)
      · rw [if_neg hname] at h
        obtain rfl := Except.ok.inj h
        rw [if_neg fun hand => hname hand.2, addPatterns]
    · rw [if_neg htag] at h
      obtain rfl := Except.ok.inj h
      rw [if_neg fun hand => htag (Xml.Event.endTag.inj hand.1), addPatterns]
  | malformed => exact absurd h (by simp [step])

/-- **The scan finds the paths of the patterns that are declared**, whatever the document holds. -/
theorem Scan.addPatterns_declares {events : List Xml.Event} {s t : Scan}
    (h : Scan.run kind name s events = .ok t) :
    addPatterns s.paths (s.declares kind name events) = .ok t.paths := by
  induction events generalizing s with
  | nil =>
    obtain rfl := Except.ok.inj h
    rfl
  | cons event events ih =>
    rw [run] at h
    cases hstep : s.step kind name event with
    | error e =>
      rw [hstep] at h
      exact absurd h (by simp)
    | ok u =>
      rw [hstep] at h
      simp only [declares, hstep]
      rw [addPatterns_append, addPatterns_of_step hstep]
      exact ih h

/-- If patterns stand for one path only, the first of them does. -/
theorem exists_cons_of_addPatterns {patterns : List String} {path : String}
    (h : addPatterns [] patterns = .ok [path]) :
    ∃ pattern, patterns.head? = some pattern ∧ ofUrlPattern pattern = .ok path := by
  cases patterns with
  | nil => exact absurd (Except.ok.inj h) (by simp)
  | cons pattern patterns =>
    refine ⟨pattern, rfl, ?_⟩
    rw [addPatterns] at h
    cases hpattern : ofUrlPattern pattern with
    | error e =>
      rw [hpattern] at h
      exact absurd h (by simp)
    | ok first =>
      rw [hpattern] at h
      dsimp only at h
      rw [if_neg List.not_mem_nil, List.nil_append, addPatterns_eq_append] at h
      -- the first path stays in front of those that are added
      cases hfound : addPatterns [] patterns with
      | error e =>
        rw [hfound] at h
        exact absurd h (by simp [Except.map])
      | ok found =>
        rw [hfound] at h
        rw [(List.cons.inj (Except.ok.inj h)).1]

/-- **The filter path of a descriptor comes from the first pattern that it declares.** -/
theorem exists_pattern_of_filterPathIn {files : Storage} {file path : String}
    (h : filterPathIn files kind name file = .ok path) :
    ∃ pattern, patternIn? files kind name file = some pattern ∧
      ofUrlPattern pattern = .ok path := by
  rw [filterPathIn] at h
  rw [patternIn?]
  split at h
  · next document modified hopen =>
    rw [hopen]
    dsimp only
    rw [filterPath, filterPaths] at h
    cases hrun : Scan.run kind name {} (Xml.events document) with
    | error e =>
      rw [hrun] at h
      exact absurd h (by simp [Except.map, bind, Except.bind])
    | ok t =>
      rw [hrun] at h
      have hunique : t.paths = [path] := unique_eq_ok_iff.mp h
      have hdeclares := Scan.addPatterns_declares hrun
      rw [hunique] at hdeclares
      exact exists_cons_of_addPatterns hdeclares
  · exact absurd h (by simp)
  · exact absurd h (by simp)

end Descriptor

/-! ### The filter path of a mount -/

/-- The text by which a source gives the filter path: an explicit path, or the url pattern in use,
which may be declared in a descriptor, without blanks around it. A source that gives none leaves the
root. -/
def given (files : Storage) : MountSource → String
  | .root => ""
  | .explicit path => path
  | .urlPattern pattern =>
    match ofUrlPattern pattern with
    | .ok _ => trimmed pattern
    | .error _ => ""
  | .descriptor kind name file =>
    match Descriptor.filterPathIn files kind name file with
    | .ok _ => trimmed ((Descriptor.patternIn? files kind name file).getD "")
    | .error _ => ""


/-- **Whatever a source gives is made canonical.** -/
theorem sourcePath_eq (files : Storage) (source : MountSource) :
    sourcePath files source = canonicalFilterPath (given files source) := by
  have hroot : canonicalFilterPath "" = "" := by decide
  cases source with
  | root => exact hroot.symm
  | explicit path => rfl
  | urlPattern pattern =>
    rw [sourcePath, sourcePath?, given]
    cases hpattern : ofUrlPattern pattern with
    | error e => exact hroot.symm
    | ok path => exact (canonicalFilterPath_of_pattern hpattern).symm
  | descriptor kind name file =>
    rw [sourcePath, sourcePath?, given]
    cases hfile : Descriptor.filterPathIn files kind name file with
    | error e => exact hroot.symm
    | ok path =>
      obtain ⟨pattern, hpattern, hpath⟩ := Descriptor.exists_pattern_of_filterPathIn hfile
      simp only [hpattern, Option.getD_some]
      exact (canonicalFilterPath_of_pattern hpath).symm

/-- The text by which an operation gives the filter path that it puts in. -/
def Operation.given (files : Storage) (source : MountSource) : Operation → String
  | .fix path => path
  | _ => Mount.given files source

theorem ownPath_eq (files : Storage) (source : MountSource) (op : Operation) :
    op.ownPath files source = canonicalFilterPath (op.given files source) := by
  cases op with
  | fix path => rfl
  | filterPath | contextPath | isResolved | redirect | relative | url =>
    exact sourcePath_eq files source

/-- The text that the filter path comes from behind a history: the first operation in need of the
path gives it, and otherwise the source does now. -/
def givenAfter (source : MountSource) (history : List (Storage × Operation)) (files : Storage) :
    String :=
  match history.find? fun input => input.2.resolves with
  | some input => input.2.given input.1 source
  | none => given files source

/-- Behind any history the filter path is what was given, made canonical. -/
theorem filterPath_perform (context : String) (source : MountSource)
    (history : List (Storage × Operation)) (files : Storage) :
    (((create context source).perform history).2).filterPath files =
      canonicalFilterPath (givenAfter source history files) := by
  rw [perform_snd rfl, filterPath, givenAfter]
  cases hfind : history.find? fun input => input.2.resolves with
  | none =>
    simp only [settled?, create, hfind, Option.map_none, Option.getD_none]
    exact sourcePath_eq files source
  | some input =>
    simp only [settled?, create, hfind, Option.map_some, Option.getD_some]
    exact ownPath_eq input.1 source input.2

/-- **A filter path is canonical exactly if what gave it does not begin with two slashes.** Behind
every history of operations on a mount with any context path and source, the filter path is empty or
ends with a slash. It does not begin with a slash, and is left as it is when it is made canonical
once more, if and only if the explicit path, the path fixed by hand or the pattern that it comes
from does not begin with two slashes. Likewise making any text canonical twice comes to the same as
doing it once if and only if the text does not begin so. -/
theorem filterPath_canonical_iff (context : String) (source : MountSource)
    (history : List (Storage × Operation)) (files : Storage) (text : String) :
    let path := (((create context source).perform history).2).filterPath files
    (path = "" ∨ path.toList.getLast? = some '/') ∧
      (IsCanonical path ↔ ¬BeginsTwice (givenAfter source history files)) ∧
      (canonicalFilterPath path = path ↔ ¬BeginsTwice (givenAfter source history files)) ∧
      (canonicalFilterPath (canonicalFilterPath text) = canonicalFilterPath text ↔
        ¬BeginsTwice text) := by
  have hagain : ∀ given : String,
      canonicalFilterPath (canonicalFilterPath given) = canonicalFilterPath given ↔
        ¬BeginsTwice given := by
    intro given
    rw [canonicalFilterPath_eq_self_iff (isDirectory_canonicalFilterPath given)]
    exact not_congr (head?_canonicalFilterPath given)
  dsimp only
  rw [filterPath_perform]
  exact ⟨isDirectory_canonicalFilterPath _, isCanonical_canonicalFilterPath_iff _, hagain _,
    hagain text⟩

/-- Of an explicit path, and of a url pattern, with two slashes in front one slash is left. -/
theorem filterPath_begins_with_slash :
    ¬IsCanonical ((create "" (.explicit "//a")).filterPath {}) ∧
      ¬IsCanonical ((create "" (.urlPattern "//a/*")).filterPath {}) ∧
      canonicalFilterPath (canonicalFilterPath "//a") ≠ canonicalFilterPath "//a" := by
  decide

end WebMount.Mount
