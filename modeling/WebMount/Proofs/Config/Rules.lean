import Mathlib.Data.List.Nodup
import WebMount.Proofs.Config.Validation

/-!
# Every broken rule is reported once

The rules for configurations are written down without regard to how they are checked: `Breaks` says
which rule is broken where, and what is to be reported of it. The rules that apply to a
configuration stand in a list, in the order of its sections and of their entries, and findings
**report** rules if they are those of exactly the rules that are broken, in order (`Reports`).
Pieces of the findings report pieces of the list, so that all findings report all rules
(`reports_findings`).
-/

namespace WebMount

namespace Config

open WebMount.Text

/-! ### The rules -/

/-- A rule for configurations, with the place of the entry that it is about. -/
inductive Rule where
  | bindAddress
  | requestSeconds
  | metricsAddress
  | contextPath
  | urlPattern
  | filterName
  | fileScope (place : Nat)
  | fileName (place : Nat)
  | filePath (place : Nat)
  | fileKey (place : Nat)
  | mediaType (place : Nat)
  | suggestionsId (place : Nat)
  | suggestionsKey (place : Nat)
  | suggestionsLimit (place : Nat)
  deriving DecidableEq, Repr

/-- The rules for a file. -/
def Rule.ofFile (place : Nat) : List Rule :=
  [fileScope place, fileName place, filePath place, fileKey place]

/-- The rules for a suggestion field. -/
def Rule.ofSuggestions (place : Nat) : List Rule :=
  [suggestionsId place, suggestionsKey place, suggestionsLimit place]

/-- The name of a field of the file at a place. -/
def fileField (place : Nat) (name : String) : String :=
  s!"resources.files[{place}].{name}"

/-- The name of a field of the suggestion field at a place. -/
def suggestionsField (place : Nat) (name : String) : String :=
  s!"autocomplete[{place}].{name}"

/-- The configuration breaks a rule, which is reported by the finding. -/
inductive Breaks (c : Config) : Rule → Finding → Prop where
  | bindAddress (h : SocketAddress.parse? c.listener.bindAddress = none) :
    Breaks c .bindAddress
      ⟨"listener.bind_address", .notSocketAddress c.listener.bindAddress⟩
  | requestSeconds (h : c.timeouts.requestSeconds = 0) :
    Breaks c .requestSeconds ⟨"timeouts.request_secs", .notPositive⟩
  | metricsAddress (henabled : c.observation.metricsEnabled = true)
      (h : SocketAddress.parse? c.observation.metricsAddress = none) :
    Breaks c .metricsAddress
      ⟨"observability.metrics_address", .notSocketAddress c.observation.metricsAddress⟩
  | contextPath (hgiven : c.filter.contextPath ≠ "")
      (h : c.filter.contextPath.toList.head? ≠ some '/') :
    Breaks c .contextPath ⟨"filter.context_path", .noLeadingSlash⟩
  | urlPattern {pattern : String} {reason : MountError}
      (hgiven : c.filter.urlPattern = some pattern)
      (h : Mount.ofUrlPattern pattern = .error reason) :
    Breaks c .urlPattern ⟨"filter.filter_mapping_url_pattern", .badPattern reason⟩
  | filterName {descriptor : String} (hgiven : c.filter.descriptor = some descriptor)
      (h : isAllBlank c.filter.name = true) :
    Breaks c .filterName ⟨"filter.filter_name", .missingName⟩
  | fileScope {place : Nat} {f : File} (hf : c.resources.files[place]? = some f)
      (h : f.scope = "" ∨ '/' ∈ f.scope.toList) :
    Breaks c (.fileScope place) ⟨fileField place "scope", .notPathSegment⟩
  | fileName {place : Nat} {f : File} (hf : c.resources.files[place]? = some f)
      (h : f.name = "") :
    Breaks c (.fileName place) ⟨fileField place "name", .isEmpty⟩
  | filePath {place : Nat} {f : File} (hf : c.resources.files[place]? = some f)
      (h : f.path = "") :
    Breaks c (.filePath place) ⟨fileField place "path", .isEmpty⟩
  | fileKey {place earlier : Nat} {f g : File} (hf : c.resources.files[place]? = some f)
      (hearlier : earlier < place) (hg : c.resources.files[earlier]? = some g)
      (h : g.key = f.key) :
    Breaks c (.fileKey place)
      ⟨fileField place "name", .duplicateResource f.scope f.name⟩
  | mediaType {place : Nat} {extension mediaType : String}
      (hmember : c.resources.mediaTypes[place]? = some (extension, mediaType))
      (h : '/' ∉ mediaType.toList) :
    Breaks c (.mediaType place)
      ⟨s!"resources.mime_types.{extension}", .notMediaType mediaType⟩
  | suggestionsId {place : Nat} {s : Suggestions} (hs : c.suggestions[place]? = some s)
      (h : ¬ IsMarkupId s.id) :
    Breaks c (.suggestionsId place) ⟨suggestionsField place "id", .notMarkupId⟩
  | suggestionsKey {place earlier : Nat} {s t : Suggestions} (hs : c.suggestions[place]? = some s)
      (hearlier : earlier < place) (ht : c.suggestions[earlier]? = some t) (h : t.id = s.id) :
    Breaks c (.suggestionsKey place) ⟨suggestionsField place "id", .duplicateId s.id⟩
  | suggestionsLimit {place : Nat} {s : Suggestions} (hs : c.suggestions[place]? = some s)
      (h : s.limit = 0) :
    Breaks c (.suggestionsLimit place) ⟨suggestionsField place "max_results", .notPositive⟩

/-- The rules for the sections without entries. -/
def Rule.single : List Rule :=
  [bindAddress, requestSeconds, metricsAddress, contextPath, urlPattern, filterName]

/-- The rules that apply to a configuration, in the order of its sections and of their entries. -/
def rules (c : Config) : List Rule :=
  Rule.single
    ++ (List.range c.resources.files.length).flatMap Rule.ofFile
    ++ (List.range c.resources.mediaTypes.length).map Rule.mediaType
    ++ (List.range c.suggestions.length).flatMap Rule.ofSuggestions

/-- A rule that is broken applies. -/
theorem Breaks.mem_rules {c : Config} {rule : Rule} {finding : Finding}
    (h : Breaks c rule finding) : rule ∈ c.rules := by
  have hplace : ∀ {α : Type} {l : List α} {place : Nat} {a : α}, l[place]? = some a →
      place < l.length := fun h => (List.getElem?_eq_some_iff.mp h).1
  simp only [rules, List.mem_append, List.mem_flatMap, List.mem_map, List.mem_range]
  cases h with
  | fileScope hf | fileName hf | filePath hf | fileKey hf =>
    exact .inl (.inl (.inr ⟨_, hplace hf, by simp [Rule.ofFile]⟩))
  | mediaType hmember => exact .inl (.inr ⟨_, hplace hmember, rfl⟩)
  | suggestionsId hs | suggestionsKey hs | suggestionsLimit hs =>
    exact .inr ⟨_, hplace hs, by simp [Rule.ofSuggestions]⟩
  | _ => exact .inl (.inl (.inl (by simp [Rule.single])))

/-- The number of the part of the rules that a rule stands in, and the place of its entry. -/
private def Rule.position : Rule → Nat × Nat
  | fileScope place | fileName place | filePath place | fileKey place => (1, place)
  | mediaType place => (2, place)
  | suggestionsId place | suggestionsKey place | suggestionsLimit place => (3, place)
  | _ => (0, 0)

private theorem Rule.position_ofFile (place : Nat) :
    ∀ rule ∈ ofFile place, rule.position = (1, place) := by
  simp [ofFile, position]

private theorem Rule.position_ofSuggestions (place : Nat) :
    ∀ rule ∈ ofSuggestions place, rule.position = (3, place) := by
  simp [ofSuggestions, position]

/-- Rules about entries at different places are different. -/
private theorem nodup_entries {rulesAt : Nat → List Rule} {part : Nat}
    (hnodup : ∀ place, (rulesAt place).Nodup)
    (hposition : ∀ place, ∀ rule ∈ rulesAt place, rule.position = (part, place)) (n : Nat) :
    ((List.range n).flatMap rulesAt).Nodup := by
  refine List.nodup_flatMap.mpr ⟨fun place _ => hnodup place, ?_⟩
  refine List.nodup_range.imp fun {place other} hne rule hrule hrule' => hne ?_
  have hsame := (hposition place rule hrule).symm.trans (hposition other rule hrule')
  exact (Prod.mk.inj hsame).2

/-- No rule applies twice. -/
theorem nodup_rules (c : Config) : c.rules.Nodup := by
  have hfiles := nodup_entries (fun place => by simp [Rule.ofFile]) Rule.position_ofFile
    c.resources.files.length
  have hsuggestions := nodup_entries (fun place => by simp [Rule.ofSuggestions])
    Rule.position_ofSuggestions c.suggestions.length
  have hmediaTypes : ((List.range c.resources.mediaTypes.length).map Rule.mediaType).Nodup :=
    List.Nodup.map (fun _ _ h => by simpa using h) List.nodup_range
  -- rules of different parts are apart by the numbers of the parts
  have hfile : ∀ rule ∈ (List.range c.resources.files.length).flatMap Rule.ofFile,
      rule.position.1 = 1 := by
    intro rule hrule
    obtain ⟨place, -, hrule⟩ := List.mem_flatMap.mp hrule
    rw [Rule.position_ofFile place rule hrule]
  have hmediaType : ∀ rule ∈ (List.range c.resources.mediaTypes.length).map Rule.mediaType,
      rule.position.1 = 2 := by
    intro rule hrule
    obtain ⟨place, -, rfl⟩ := List.mem_map.mp hrule
    rfl
  have hsuggestion : ∀ rule ∈ (List.range c.suggestions.length).flatMap Rule.ofSuggestions,
      rule.position.1 = 3 := by
    intro rule hrule
    obtain ⟨place, -, hrule⟩ := List.mem_flatMap.mp hrule
    rw [Rule.position_ofSuggestions place rule hrule]
  have hsingle : ∀ rule ∈ Rule.single, rule.position.1 = 0 := by decide
  have hnodup : Rule.single.Nodup := by decide
  simp only [rules, List.nodup_append, List.mem_append, hnodup, hfiles, hmediaTypes, hsuggestions,
    true_and]
  refine ⟨⟨?_, ?_⟩, ?_⟩ <;> grind

/-! ### Findings report rules -/

/-- The findings are those of exactly the rules in a list that are broken, in the order of the
list. -/
def Reports (c : Config) (rules : List Rule) (findings : List Finding) : Prop :=
  ∃ broken : List (Rule × Finding), findings = broken.map Prod.snd ∧
    (broken.map Prod.fst).Sublist rules ∧
    ∀ rule finding, (rule, finding) ∈ broken ↔ rule ∈ rules ∧ Breaks c rule finding

variable {c : Config}

theorem Reports.append {rules more : List Rule} {findings others : List Finding}
    (h : Reports c rules findings) (hmore : Reports c more others) :
    Reports c (rules ++ more) (findings ++ others) := by
  obtain ⟨broken, rfl, hsub, hmem⟩ := h
  obtain ⟨broken', rfl, hsub', hmem'⟩ := hmore
  refine ⟨broken ++ broken', List.map_append.symm, ?_, fun rule finding => ?_⟩
  · rw [List.map_append]
    exact hsub.append hsub'
  · rw [List.mem_append, List.mem_append, hmem, hmem', or_and_right]

/-- A rule that is reported at most once. -/
theorem reports_toList {rule : Rule} (found? : Option Finding)
    (h : ∀ finding, Breaks c rule finding ↔ found? = some finding) :
    Reports c [rule] found?.toList := by
  refine ⟨found?.toList.map fun found => (rule, found), ?_, ?_, fun other finding => ?_⟩
  · rw [List.map_map]
    exact (List.map_id _).symm
  · cases found? with
    | none => exact List.nil_sublist _
    | some found => exact List.Sublist.refl _
  · rw [List.mem_singleton]
    constructor
    · intro hmem
      obtain ⟨found, hfound, heq⟩ := List.mem_map.mp hmem
      obtain ⟨rfl, rfl⟩ := Prod.mk.inj heq
      exact ⟨rfl, (h found).mpr (Option.mem_toList.mp hfound)⟩
    · rintro ⟨rfl, hbreaks⟩
      exact List.mem_map.mpr ⟨finding, Option.mem_toList.mpr ((h finding).mp hbreaks), rfl⟩

/-- A rule that is broken exactly under a condition. -/
theorem reports_findingIf {rule : Rule} {condition : Bool} {broken : Prop} {field : String}
    {fault : Fault} (hcondition : condition = true ↔ broken)
    (hbreaks : broken → Breaks c rule ⟨field, fault⟩)
    (honly : ∀ finding, Breaks c rule finding → broken ∧ finding = ⟨field, fault⟩) :
    Reports c [rule] (findingIf condition field fault) := by
  have hfound : findingIf condition field fault =
      (if condition then some (⟨field, fault⟩ : Finding) else none).toList := by
    cases condition <;> rfl
  have hiff : ∀ finding, Breaks c rule finding ↔ condition = true ∧ finding = ⟨field, fault⟩ := by
    intro finding
    rw [hcondition]
    exact ⟨honly finding, fun ⟨hbroken, heq⟩ => heq ▸ hbreaks hbroken⟩
  rw [hfound]
  refine reports_toList _ fun finding => (hiff finding).trans ?_
  cases condition <;> simp [eq_comm]

/-- A list is reported if each of its elements is. -/
theorem reports_reportEach {α : Type} {report : Nat → List α → α → List Finding}
    {rulesAt : Nat → List Rule} {all : List α}
    (h : ∀ before a after, all = before ++ a :: after →
      Reports c (rulesAt before.length) (report before.length before a)) :
    Reports c ((List.range all.length).flatMap rulesAt) (reportEach report [] all) := by
  -- the places of the rest of the list are counted on from what stands before it
  have hrest : ∀ before l, all = before ++ l → Reports c
      ((List.range' before.length l.length).flatMap rulesAt) (reportEach report before l) := by
    intro before l
    induction l generalizing before with
    | nil => exact fun _ => ⟨[], rfl, List.Sublist.refl _, by simp⟩
    | cons a l ih =>
      intro hall
      have hnext := ih (before ++ [a]) (by rw [hall, List.append_assoc, List.singleton_append])
      rw [List.length_append, List.length_singleton] at hnext
      rw [List.length_cons, List.range'_succ, List.flatMap_cons]
      exact (h before a l hall).append hnext
  have hwhole := hrest [] all rfl
  rwa [List.length_nil, ← List.range_eq_range'] at hwhole

/-! ### The findings of a configuration -/

/-- The elements before a place. -/
theorem exists_earlier_iff {α : Type} {all before after : List α} {a : α} {p : α → Prop}
    (hall : all = before ++ a :: after) :
    (∃ b ∈ before, p b) ↔
      ∃ earlier b, earlier < before.length ∧ all[earlier]? = some b ∧ p b := by
  subst hall
  constructor
  · rintro ⟨b, hb, hp⟩
    obtain ⟨earlier, hlt, hget⟩ := List.mem_iff_getElem.mp hb
    refine ⟨earlier, b, hlt, ?_, hp⟩
    rw [List.getElem?_append_left hlt, List.getElem?_eq_some_iff]
    exact ⟨hlt, hget⟩
  · rintro ⟨earlier, b, hlt, hget, hp⟩
    rw [List.getElem?_append_left hlt] at hget
    exact ⟨b, List.mem_of_getElem? hget, hp⟩

/-- A rule about an element of a list, which holds the element at the place of the rule. -/
theorem getElem?_place {α : Type} {all before after : List α} {a : α}
    (hall : all = before ++ a :: after) : all[before.length]? = some a := by
  rw [hall, List.getElem?_append_right (Nat.le_refl _), Nat.sub_self]
  rfl

theorem File.sameResource_iff {f g : File} : f.sameResource g = true ↔ g.key = f.key := by
  rw [← not_iff_not, Bool.not_eq_true, sameResource_eq_false_iff]

theorem reports_file {before after : List File} {f : File}
    (hall : c.resources.files = before ++ f :: after) :
    Reports c (Rule.ofFile before.length) (f.findings before.length before) := by
  have hf := getElem?_place hall
  have hsame : ∀ {g}, c.resources.files[before.length]? = some g → g = f :=
    fun hg => Option.some.inj (hg.symm.trans hf)
  have hkey : before.any f.sameResource = true ↔ ∃ earlier g,
      earlier < before.length ∧ c.resources.files[earlier]? = some g ∧ g.key = f.key := by
    simp only [List.any_eq_true, File.sameResource_iff, exists_earlier_iff hall]
  refine (((reports_findingIf decide_eq_true_iff (.fileScope hf) ?scope).append
    (reports_findingIf decide_eq_true_iff (.fileName hf) ?name)).append
    (reports_findingIf decide_eq_true_iff (.filePath hf) ?path)).append
    (reports_findingIf hkey (fun ⟨_, _, hearlier, hg, h⟩ => .fileKey hf hearlier hg h) ?key) <;>
    intro finding hbreaks
  case scope =>
    cases hbreaks with
    | fileScope hg h => exact hsame hg ▸ ⟨h, rfl⟩
  case name =>
    cases hbreaks with
    | fileName hg h => exact hsame hg ▸ ⟨h, rfl⟩
  case path =>
    cases hbreaks with
    | filePath hg h => exact hsame hg ▸ ⟨h, rfl⟩
  case key =>
    cases hbreaks with
    | fileKey hg hearlier hother h => exact hsame hg ▸ ⟨⟨_, _, hearlier, hother, h⟩, rfl⟩

theorem reports_suggestions {before after : List Suggestions} {s : Suggestions}
    (hall : c.suggestions = before ++ s :: after) :
    Reports c (Rule.ofSuggestions before.length) (s.findings before.length before) := by
  have hs := getElem?_place hall
  have hsame : ∀ {t}, c.suggestions[before.length]? = some t → t = s :=
    fun ht => Option.some.inj (ht.symm.trans hs)
  have hid : (!isMarkupId s.id) = true ↔ ¬ IsMarkupId s.id := by
    rw [Bool.not_eq_true', ← Bool.not_eq_true, isMarkupId_iff]
  have hkey : (before.any fun b => b.id == s.id) = true ↔ ∃ earlier t,
      earlier < before.length ∧ c.suggestions[earlier]? = some t ∧ t.id = s.id := by
    simp only [List.any_eq_true, beq_iff_eq, exists_earlier_iff hall]
  refine ((reports_findingIf hid (.suggestionsId hs) ?id).append
    (reports_findingIf hkey (fun ⟨_, _, hearlier, ht, h⟩ => .suggestionsKey hs hearlier ht h)
      ?key)).append
    (reports_findingIf decide_eq_true_iff (.suggestionsLimit hs) ?limit) <;> intro finding hbreaks
  case id =>
    cases hbreaks with
    | suggestionsId ht h => exact hsame ht ▸ ⟨h, rfl⟩
  case key =>
    cases hbreaks with
    | suggestionsKey ht hearlier hother h => exact hsame ht ▸ ⟨⟨_, _, hearlier, hother, h⟩, rfl⟩
  case limit =>
    cases hbreaks with
    | suggestionsLimit ht h => exact hsame ht ▸ ⟨h, rfl⟩

/-- Media types are reported whatever stands before them. -/
theorem flatMap_eq_reportEach {α : Type} (report : α → List Finding) (before l : List α) :
    l.flatMap report = reportEach (fun _ _ => report) before l := by
  induction l generalizing before with
  | nil => rfl
  | cons a l ih => rw [List.flatMap_cons, reportEach, ih (before ++ [a])]

theorem reports_mediaTypes (c : Config) :
    Reports c ((List.range c.resources.mediaTypes.length).map Rule.mediaType)
      (c.resources.mediaTypes.flatMap fun (name, mediaType) =>
        findingIf ('/' ∉ mediaType.toList) s!"resources.mime_types.{name}"
          (.notMediaType mediaType)) := by
  rw [flatMap_eq_reportEach _ [], List.map_eq_flatMap]
  refine reports_reportEach fun before entry after hall => ?_
  obtain ⟨name, mediaType⟩ := entry
  have hmember := getElem?_place hall
  refine reports_findingIf decide_eq_true_iff (.mediaType hmember) fun finding hbreaks => ?_
  cases hbreaks with
  | mediaType hmember' h =>
    obtain ⟨rfl, rfl⟩ := Prod.mk.inj (Option.some.inj (hmember'.symm.trans hmember))
    exact ⟨h, rfl⟩

theorem reports_addresses (c : Config) :
    Reports c [.bindAddress, .requestSeconds, .metricsAddress]
      (findingIf (isNoSocketAddress c.listener.bindAddress) "listener.bind_address"
          (.notSocketAddress c.listener.bindAddress)
        ++ findingIf (c.timeouts.requestSeconds = 0) "timeouts.request_secs" .notPositive
        ++ findingIf
          (c.observation.metricsEnabled && isNoSocketAddress c.observation.metricsAddress)
          "observability.metrics_address" (.notSocketAddress c.observation.metricsAddress)) := by
  have hparse : ∀ text, isNoSocketAddress text = true ↔ SocketAddress.parse? text = none := by
    intro text
    rw [isNoSocketAddress, Option.isNone_iff_eq_none]
  have hmetrics : (c.observation.metricsEnabled &&
      isNoSocketAddress c.observation.metricsAddress) = true ↔
        c.observation.metricsEnabled = true ∧
          SocketAddress.parse? c.observation.metricsAddress = none := by
    rw [Bool.and_eq_true, hparse]
  refine ((reports_findingIf (hparse _) .bindAddress ?bind).append
    (reports_findingIf decide_eq_true_iff .requestSeconds ?request)).append
    (reports_findingIf hmetrics (fun ⟨henabled, h⟩ => .metricsAddress henabled h) ?metrics) <;>
    intro finding hbreaks
  case bind =>
    cases hbreaks with
    | bindAddress h => exact ⟨h, rfl⟩
  case request =>
    cases hbreaks with
    | requestSeconds h => exact ⟨h, rfl⟩
  case metrics =>
    cases hbreaks with
    | metricsAddress henabled h => exact ⟨⟨henabled, h⟩, rfl⟩

theorem reports_filter (c : Config) :
    Reports c [.contextPath, .urlPattern, .filterName] c.filter.findings := by
  have hcontext : Reports c [.contextPath] (findingIf (c.filter.contextPath ≠ "" ∧
      c.filter.contextPath.toList.head? ≠ some '/') "filter.context_path" .noLeadingSlash) := by
    refine reports_findingIf decide_eq_true_iff (fun ⟨hgiven, h⟩ => .contextPath hgiven h)
      fun finding hbreaks => ?_
    cases hbreaks with
    | contextPath hgiven h => exact ⟨⟨hgiven, h⟩, rfl⟩
  have hname : Reports c [.filterName]
      (findingIf (c.filter.descriptor.isSome ∧ isAllBlank c.filter.name) "filter.filter_name"
        .missingName) := by
    have hgiven : decide (c.filter.descriptor.isSome = true ∧ isAllBlank c.filter.name = true) =
        true ↔ (∃ descriptor, c.filter.descriptor = some descriptor) ∧
          isAllBlank c.filter.name = true := by
      rw [decide_eq_true_iff, Option.isSome_iff_exists]
    refine reports_findingIf hgiven (fun ⟨⟨_, hgiven⟩, h⟩ => .filterName hgiven h)
      fun finding hbreaks => ?_
    cases hbreaks with
    | filterName hgiven h => exact ⟨⟨⟨_, hgiven⟩, h⟩, rfl⟩
  change Reports c ([Rule.contextPath] ++ [Rule.urlPattern] ++ [Rule.filterName]) c.filter.findings
  refine (hcontext.append ?_).append hname
  split
  · next reason hmap =>
    obtain ⟨pattern, hgiven, herror⟩ := Option.map_eq_some_iff.mp hmap
    refine reports_toList (some _) fun finding => ?_
    constructor
    · intro hbreaks
      cases hbreaks with
      | urlPattern hgiven' h =>
        obtain rfl := Option.some.inj (hgiven'.symm.trans hgiven)
        obtain rfl := Except.error.inj (h.symm.trans herror)
        rfl
    · intro hfound
      exact Option.some.inj hfound ▸ .urlPattern hgiven herror
  · next hmap =>
    refine reports_toList none fun finding => iff_of_false ?_ (by simp)
    intro hbreaks
    cases hbreaks with
    | urlPattern hgiven h => exact hmap _ (by rw [hgiven, Option.map_some, h])

/-- **The findings of a configuration report all rules.** -/
theorem reports_findings (c : Config) : Reports c c.rules c.findings := by
  have hfiles : Reports c ((List.range c.resources.files.length).flatMap Rule.ofFile)
      (reportEach File.findings [] c.resources.files) :=
    reports_reportEach fun _ _ _ hall => reports_file hall
  have hsuggestions : Reports c ((List.range c.suggestions.length).flatMap Rule.ofSuggestions)
      (reportEach Suggestions.findings [] c.suggestions) :=
    reports_reportEach fun _ _ _ hall => reports_suggestions hall
  have hall := (((reports_addresses c).append (reports_filter c)).append
    (hfiles.append (reports_mediaTypes c))).append hsuggestions
  rw [← List.append_assoc] at hall
  exact hall

end Config

end WebMount
