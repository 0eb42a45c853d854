import Mathlib.Data.Finset.Card
import WebMount.Proofs.Config.Rules

/-!
# Validation is exact

A configuration is accepted exactly if all rules hold (`findings_eq_nil_iff`), and otherwise
everything that is wrong with it is reported (`validate_exact`). Each entry whose key occurred
before is one duplicate, so the duplicates and the different keys add up to the entries
(`countP_reportEach`).
-/

namespace WebMount

namespace Config

open WebMount.Text

/-! ### Configurations that break no rule -/

/-- All rules hold. -/
structure Accepted (c : Config) : Prop where
  bindAddress : ∃ address, SocketAddress.parse? c.listener.bindAddress = some address
  requestSeconds : 0 < c.timeouts.requestSeconds
  metricsAddress : c.observation.metricsEnabled = true →
    ∃ address, SocketAddress.parse? c.observation.metricsAddress = some address
  contextPath : c.filter.contextPath = "" ∨ c.filter.contextPath.toList.head? = some '/'
  urlPattern : ∀ pattern, c.filter.urlPattern = some pattern →
    ∃ path, Mount.ofUrlPattern pattern = .ok path
  filterName : ∀ descriptor, c.filter.descriptor = some descriptor →
    isAllBlank c.filter.name = false
  files : ∀ f ∈ c.resources.files, f.WellFormed
  keys : c.resources.files.Pairwise fun f g => f.key ≠ g.key
  mediaTypes : ∀ entry ∈ c.resources.mediaTypes, '/' ∈ entry.2.toList
  ids : ∀ s ∈ c.suggestions, IsMarkupId s.id
  idsApart : c.suggestions.Pairwise fun s t => s.id ≠ t.id
  limits : ∀ s ∈ c.suggestions, 0 < s.limit

theorem filter_accepted_iff {f : Filter} : f.findings = [] ↔
    (f.contextPath = "" ∨ f.contextPath.toList.head? = some '/') ∧
    (∀ pattern, f.urlPattern = some pattern → ∃ path, Mount.ofUrlPattern pattern = .ok path) ∧
    ∀ descriptor, f.descriptor = some descriptor → isAllBlank f.name = false := by
  have hname : ¬ (f.descriptor.isSome = true ∧ isAllBlank f.name = true) ↔
      ∀ descriptor, f.descriptor = some descriptor → isAllBlank f.name = false := by
    cases f.descriptor <;> simp
  have hcontext : ¬ (f.contextPath ≠ "" ∧ f.contextPath.toList.head? ≠ some '/') ↔
      f.contextPath = "" ∨ f.contextPath.toList.head? = some '/' := by
    rw [Classical.not_and_iff_not_or_not, not_not, not_not]
  rw [Filter.findings, List.append_eq_nil_iff, List.append_eq_nil_iff, findingIf_eq_nil_iff,
    findingIf_eq_nil_iff, decide_eq_false_iff_not, decide_eq_false_iff_not, and_assoc]
  refine and_congr hcontext (and_congr ?_ hname)
  cases f.urlPattern with
  | none => simp
  | some pattern => cases hpath : Mount.ofUrlPattern pattern <;> simp [hpath]

theorem findings_eq_nil_iff {c : Config} : c.findings = [] ↔ c.Accepted := by
  have hparsed : ∀ text, isNoSocketAddress text = false ↔
      ∃ address, SocketAddress.parse? text = some address := by
    intro text
    rw [isNoSocketAddress, Option.isNone_eq_false_iff, Option.isSome_iff_exists]
  have hmetrics : (c.observation.metricsEnabled &&
      isNoSocketAddress c.observation.metricsAddress) = false ↔
        (c.observation.metricsEnabled = true →
          ∃ address, SocketAddress.parse? c.observation.metricsAddress = some address) := by
    rw [← hparsed]
    cases c.observation.metricsEnabled <;> simp
  simp only [Config.findings, Resources.findings, List.append_eq_nil_iff, findingIf_eq_nil_iff,
    filter_accepted_iff, files_accepted_iff, suggestions_accepted_iff, hparsed, hmetrics,
    decide_eq_false_iff_not, List.flatMap_eq_nil_iff, not_not]
  constructor
  · rintro ⟨⟨⟨⟨⟨hbind, hrequest⟩, hmetrics⟩, hcontext, hpattern, hname⟩, ⟨hfiles, hkeys⟩,
      hmediaTypes⟩, hfields, hids⟩
    exact ⟨hbind, Nat.pos_of_ne_zero hrequest, hmetrics, hcontext, hpattern, hname, hfiles, hkeys,
      hmediaTypes, fun s hs => isMarkupId_iff.mp (hfields s hs).isMarkupId, hids,
      fun s hs => Nat.pos_of_ne_zero (hfields s hs).limit_ne⟩
  · intro h
    exact ⟨⟨⟨⟨⟨h.bindAddress, h.requestSeconds.ne'⟩, h.metricsAddress⟩, h.contextPath,
      h.urlPattern, h.filterName⟩, ⟨h.files, h.keys⟩, h.mediaTypes⟩,
      fun s hs => ⟨isMarkupId_iff.mpr (h.ids s hs), (h.limits s hs).ne'⟩, h.idsApart⟩

/-! ### Duplicates -/

/-- The finding is about a file whose key occurred before. -/
def Finding.isDuplicateResource (f : Finding) : Bool :=
  f.fault matches .duplicateResource _ _

/-- The finding is about a suggestion field whose id occurred before. -/
def Finding.isDuplicateId (f : Finding) : Bool :=
  f.fault matches .duplicateId _

theorem countP_findingIf (p : Finding → Bool) (condition : Bool) (field : String)
    (fault : Fault) : (findingIf condition field fault).countP p =
      if condition && p ⟨field, fault⟩ then 1 else 0 := by
  cases condition <;> simp [findingIf, List.countP_singleton]

section

variable {α κ : Type} [DecidableEq κ] {report : Nat → List α → α → List Finding} {key : α → κ}
  {p : Finding → Bool}

/-- **Duplicates and different keys add up to the elements.** -/
theorem countP_reportEach (hreport : ∀ place before a,
      (report place before a).countP p = if key a ∈ before.map key then 1 else 0)
    (before l : List α) :
    (reportEach report before l).countP p + ((before ++ l).map key).toFinset.card =
      (before.map key).toFinset.card + l.length := by
  induction l generalizing before with
  | nil => simp [reportEach]
  | cons a l ih =>
    have hnext := ih (before ++ [a])
    have hinsert : ((before ++ [a]).map key).toFinset =
        insert (key a) (before.map key).toFinset := by
      ext k
      simp
    rw [List.append_assoc, List.singleton_append, hinsert] at hnext
    rw [reportEach, List.countP_append, hreport, List.length_cons]
    by_cases hkey : key a ∈ before.map key
    · rw [Finset.card_insert_of_mem (List.mem_toFinset.mpr hkey)] at hnext
      rw [if_pos hkey]
      omega
    · rw [Finset.card_insert_of_notMem (mt List.mem_toFinset.mp hkey)] at hnext
      rw [if_neg hkey]
      omega

theorem countP_reportEach_eq_zero
    (hreport : ∀ place before a, (report place before a).countP p = 0) (before l : List α) :
    (reportEach report before l).countP p = 0 := by
  induction l generalizing before with
  | nil => rfl
  | cons a l ih => rw [reportEach, List.countP_append, hreport, ih]

end

/-- Duplicates are found among the files and among the suggestion fields only. -/
theorem countP_findings {p : Finding → Bool}
    (hp : ∀ f, p f = true → f.isDuplicateResource = true ∨ f.isDuplicateId = true) (c : Config) :
    c.findings.countP p = (reportEach File.findings [] c.resources.files).countP p +
      (reportEach Suggestions.findings [] c.suggestions).countP p := by
  have hother : ∀ f : Finding, f.isDuplicateResource = false → f.isDuplicateId = false →
      p f = false := by
    intro f hresource hid
    rw [← Bool.not_eq_true]
    intro hf
    rcases hp f hf with h | h
    · exact Bool.false_ne_true (hresource.symm.trans h)
    · exact Bool.false_ne_true (hid.symm.trans h)
  have hif : ∀ condition field fault, (⟨field, fault⟩ : Finding).isDuplicateResource = false →
      (⟨field, fault⟩ : Finding).isDuplicateId = false →
      (findingIf condition field fault).countP p = 0 := by
    intro condition field fault hresource hid
    rw [countP_findingIf, hother _ hresource hid, Bool.and_false]
    rfl
  have hfilter : c.filter.findings.countP p = 0 := by
    rw [Filter.findings, List.countP_append, List.countP_append, hif _ _ _ rfl rfl,
      hif _ _ _ rfl rfl]
    split
    · rw [List.countP_singleton, hother _ rfl rfl]
      rfl
    · rfl
  have hmediaTypes := countP_reportEach_eq_zero (p := p)
    (fun place before (a : String × String) =>
      hif ('/' ∉ a.2.toList) s!"resources.mime_types.{a.1}" (.notMediaType a.2) rfl rfl)
    [] c.resources.mediaTypes
  rw [← flatMap_eq_reportEach _ []] at hmediaTypes
  rw [Config.findings, Resources.findings]
  simp only [List.countP_append, hfilter]
  rw [hmediaTypes, hif _ _ _ rfl rfl, hif _ _ _ rfl rfl, hif _ _ _ rfl rfl]
  omega

/-- Each file whose key occurred before is reported as a duplicate. -/
theorem duplicateResources_add_card (c : Config) :
    c.findings.countP Finding.isDuplicateResource +
      (c.resources.files.map File.key).toFinset.card = c.resources.files.length := by
  have hfile : ∀ place before (f : File),
      (f.findings place before).countP Finding.isDuplicateResource =
        if f.key ∈ before.map File.key then 1 else 0 := by
    intro place before f
    simp [File.findings, countP_findingIf, Finding.isDuplicateResource, File.sameResource_iff]
  have hsuggestions : (reportEach Suggestions.findings [] c.suggestions).countP
      Finding.isDuplicateResource = 0 := by
    refine countP_reportEach_eq_zero (fun place before s => ?_) [] c.suggestions
    simp [Suggestions.findings, countP_findingIf, Finding.isDuplicateResource]
  have hcount := countP_reportEach hfile [] c.resources.files
  rw [countP_findings (fun f hf => .inl hf), hsuggestions]
  simpa using hcount

/-- Each suggestion field whose id occurred before is reported as a duplicate. -/
theorem duplicateIds_add_card (c : Config) :
    c.findings.countP Finding.isDuplicateId +
      (c.suggestions.map Suggestions.id).toFinset.card = c.suggestions.length := by
  have hsuggestions : ∀ place before (s : Suggestions),
      (s.findings place before).countP Finding.isDuplicateId =
        if s.id ∈ before.map Suggestions.id then 1 else 0 := by
    intro place before s
    simp [Suggestions.findings, countP_findingIf, Finding.isDuplicateId]
  have hfiles : (reportEach File.findings [] c.resources.files).countP
      Finding.isDuplicateId = 0 := by
    refine countP_reportEach_eq_zero (fun place before f => ?_) [] c.resources.files
    simp [File.findings, countP_findingIf, Finding.isDuplicateId]
  have hcount := countP_reportEach hsuggestions [] c.suggestions
  rw [countP_findings (fun f hf => .inr hf), hfiles]
  simpa using hcount

/-! ### Validation -/

/-- **Validation is exact and reports everything.** A configuration is accepted exactly if all rules
hold. Of any configuration, each rule that is broken is reported once, with its section and the
place of its entry, and nothing else is; what is reported stands in the order of the rules, whatever
the order of the media types is. Of files, those beyond the number of their different keys are
reported as duplicates, and so it is with the ids of suggestion fields. -/
theorem validate_exact (c : Config) :
    (c.validate = .ok () ↔ c.Accepted) ∧
    (c.validate = .ok () ∨ c.validate = .error c.findings) ∧
    (∃ broken : List (Rule × Finding), c.findings = broken.map Prod.snd ∧
      (broken.map Prod.fst).Sublist c.rules ∧ (broken.map Prod.fst).Nodup ∧
      ∀ rule finding, (rule, finding) ∈ broken ↔ Breaks c rule finding) ∧
    c.findings.countP Finding.isDuplicateResource +
      (c.resources.files.map File.key).toFinset.card = c.resources.files.length ∧
    c.findings.countP Finding.isDuplicateId +
      (c.suggestions.map Suggestions.id).toFinset.card = c.suggestions.length := by
  refine ⟨?_, ?_, ?_, duplicateResources_add_card c, duplicateIds_add_card c⟩
  · rw [← findings_eq_nil_iff, validate]
    split <;> simp_all
  · rw [validate]
    split <;> simp_all
  · obtain ⟨broken, hfindings, hsub, hmem⟩ := reports_findings c
    refine ⟨broken, hfindings, hsub, (nodup_rules c).sublist hsub, fun rule finding => ?_⟩
    rw [hmem, and_iff_right_iff_imp]
    exact Breaks.mem_rules

end Config

end WebMount
