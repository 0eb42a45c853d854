import WebMount.Config.Validation
import WebMount.Server.Basic

/-!
# Configurations without faults

A list is reported element by element, each in the light of those before it. Where an element is
asked for something of its own and for something towards each one before it, nothing is reported
exactly if all elements have the one and any two of them the other (`reportEach_eq_nil_iff`). So the
files and the suggestion fields of a configuration that is accepted are well formed, and no two of
them have the same name (`files_accepted_iff`, `suggestions_accepted_iff`).
-/

namespace WebMount

namespace Config

theorem findingIf_eq_nil_iff {condition : Bool} {field : String} {fault : Fault} :
    findingIf condition field fault = [] ↔ condition = false := by
  cases condition with
  | true => exact ⟨nofun, nofun⟩
  | false => exact ⟨fun _ => rfl, fun _ => rfl⟩

/-- **Nothing is reported of a list exactly if every element is in order, by itself and towards
those before it.** -/
theorem reportEach_eq_nil_iff {α : Type} {report : Nat → List α → α → List Finding}
    {ok : α → Prop} {apart : α → α → Prop}
    (hreport : ∀ place before a,
      report place before a = [] ↔ ok a ∧ ∀ b ∈ before, apart b a)
    {before l : List α} :
    reportEach report before l = [] ↔
      (∀ a ∈ l, ok a ∧ ∀ b ∈ before, apart b a) ∧ l.Pairwise apart := by
  induction l generalizing before with
  | nil => simp [reportEach]
  | cons a l ih =>
    rw [reportEach, List.append_eq_nil_iff, hreport, ih, List.forall_mem_cons,
      List.pairwise_cons]
    constructor
    · rintro ⟨ha, hl, hpairs⟩
      refine ⟨⟨ha, fun c hc => ?_⟩, fun c hc => ?_, hpairs⟩
      · exact ⟨(hl c hc).1, fun b hb => (hl c hc).2 b (List.mem_append_left _ hb)⟩
      · exact (hl c hc).2 a (List.mem_append_right _ (List.mem_singleton_self a))
    · rintro ⟨⟨ha, hl⟩, hfirst, hpairs⟩
      refine ⟨ha, fun c hc => ⟨(hl c hc).1, fun b hb => ?_⟩, hpairs⟩
      rcases List.mem_append.mp hb with hb | hb
      · exact (hl c hc).2 b hb
      · exact List.mem_singleton.mp hb ▸ hfirst c hc

/-! ### Files -/

/-- The scope is a part of a path, and the name and the path of the file are given. -/
structure File.WellFormed (f : File) : Prop where
  scope_ne : f.scope ≠ ""
  scope_plain : '/' ∉ f.scope.toList
  name_ne : f.name ≠ ""
  path_ne : f.path ≠ ""

theorem File.sameResource_eq_false_iff {f g : File} :
    f.sameResource g = false ↔ g.key ≠ f.key := by
  rw [sameResource, Bool.and_eq_false_iff, beq_eq_false_iff_ne, beq_eq_false_iff_ne,
    ← Classical.not_and_iff_not_or_not, ne_comm, key, key, Ne, ResourceKey.mk.injEq]

theorem File.findings_eq_nil_iff (place : Nat) (before : List File) (f : File) :
    f.findings place before = [] ↔ f.WellFormed ∧ ∀ g ∈ before, g.key ≠ f.key := by
  simp only [findings, List.append_eq_nil_iff, findingIf_eq_nil_iff, decide_eq_false_iff_not,
    not_or, List.any_eq_false, Bool.not_eq_true, sameResource_eq_false_iff]
  constructor
  · rintro ⟨⟨⟨⟨hscope, hplain⟩, hname⟩, hpath⟩, hkeys⟩
    exact ⟨⟨hscope, hplain, hname, hpath⟩, hkeys⟩
  · rintro ⟨⟨hscope, hplain, hname, hpath⟩, hkeys⟩
    exact ⟨⟨⟨⟨hscope, hplain⟩, hname⟩, hpath⟩, hkeys⟩

/-- **Nothing is reported of files exactly if they are well formed and shared under different
keys.** -/
theorem files_accepted_iff {files : List File} :
    reportEach File.findings [] files = [] ↔
      (∀ f ∈ files, f.WellFormed) ∧ files.Pairwise fun f g => f.key ≠ g.key := by
  rw [reportEach_eq_nil_iff File.findings_eq_nil_iff]
  simp only [List.not_mem_nil, false_implies, implies_true, and_true]

/-! ### Suggestion fields -/

/-- The id can be the id of an element, and there is room for suggestions. -/
structure Suggestions.WellFormed (s : Suggestions) : Prop where
  isMarkupId : isMarkupId s.id = true
  limit_ne : s.limit ≠ 0

theorem Suggestions.findings_eq_nil_iff (place : Nat) (before : List Suggestions)
    (s : Suggestions) :
    s.findings place before = [] ↔ s.WellFormed ∧ ∀ t ∈ before, t.id ≠ s.id := by
  simp only [findings, List.append_eq_nil_iff, findingIf_eq_nil_iff, decide_eq_false_iff_not,
    Bool.not_eq_false', List.any_eq_false, beq_iff_eq]
  constructor
  · rintro ⟨⟨hid, hids⟩, hlimit⟩
    exact ⟨⟨hid, hlimit⟩, hids⟩
  · rintro ⟨⟨hid, hlimit⟩, hids⟩
    exact ⟨⟨hid, hids⟩, hlimit⟩

/-- **Nothing is reported of suggestion fields exactly if they are well formed and have different
ids.** -/
theorem suggestions_accepted_iff {suggestions : List Suggestions} :
    reportEach Suggestions.findings [] suggestions = [] ↔
      (∀ s ∈ suggestions, s.WellFormed) ∧ suggestions.Pairwise fun s t => s.id ≠ t.id := by
  rw [reportEach_eq_nil_iff Suggestions.findings_eq_nil_iff]
  simp only [List.not_mem_nil, false_implies, implies_true, and_true]

/-- The text is not empty, and all its characters are letters or digits of ASCII, `-` or `_`. -/
def IsMarkupId (id : String) : Prop :=
  id ≠ "" ∧ ∀ c ∈ id.toList, c.isAlphanum = true ∨ c = '-' ∨ c = '_'

theorem isMarkupId_iff {id : String} : isMarkupId id = true ↔ IsMarkupId id := by
  simp [isMarkupId, IsMarkupId, or_assoc]

end Config

/-- The files and the suggestion fields of a configuration that is accepted. -/
theorem Config.parts_of_accepted {c : Config} (h : c.findings = []) :
    reportEach File.findings [] c.resources.files = [] ∧
      reportEach Suggestions.findings [] c.suggestions = [] := by
  simp only [Config.findings, Resources.findings, List.append_eq_nil_iff] at h
  obtain ⟨⟨-, hfiles, -⟩, hsuggestions⟩ := h
  exact ⟨hfiles, hsuggestions⟩

end WebMount
