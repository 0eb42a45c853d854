import WebMount.Server.Basic

/-!
# What a server is assembled with

Resources and suggestion fields are put in one after the other, so what is kept under a key at last
is what was put in under it last. Where no two have the same key, each of them is kept
(`get?_foldl_eq_some_iff`): the files of a configuration (`Server.get?_resourcesOf`), together with
the client script unless a file has taken its place, and the suggestion fields
(`SuggestionFields.get?_ofList`).
-/

namespace WebMount

/-- What is kept under a key after elements with different keys have been put in. -/
theorem get?_foldl_eq_some_iff {α β γ σ : Type} [DecidableEq α] (key : γ → α) (value : γ → β)
    {insert : σ → γ → σ} {get? : σ → α → Option β}
    (hinsert : ∀ s c k, get? (insert s c) k = if k = key c then some (value c) else get? s k)
    {l : List γ} (hkeys : l.Pairwise fun c d => key c ≠ key d) (s : σ) (k : α) (v : β) :
    get? (l.foldl insert s) k = some v ↔
      (∃ c ∈ l, key c = k ∧ value c = v) ∨ (∀ c ∈ l, key c ≠ k) ∧ get? s k = some v := by
  induction l generalizing s with
  | nil => simp
  | cons c l ih =>
    obtain ⟨hfirst, hrest⟩ := List.pairwise_cons.mp hkeys
    rw [List.foldl_cons, ih hrest, hinsert]
    by_cases hk : k = key c
    · -- what was put in under the key is not put in again
      have hothers : ∀ d ∈ l, key d ≠ k := fun d hd h => hfirst d hd (hk.symm.trans h.symm)
      rw [if_pos hk, Option.some.injEq]
      constructor
      · rintro (⟨d, hd, hkey, -⟩ | ⟨-, hvalue⟩)
        · exact absurd hkey (hothers d hd)
        · exact .inl ⟨c, List.mem_cons_self, hk.symm, hvalue⟩
      · rintro (⟨d, hd, hkey, hvalue⟩ | ⟨hnone, -⟩)
        · rcases List.mem_cons.mp hd with rfl | hd
          · exact .inr ⟨hothers, hvalue⟩
          · exact absurd hkey (hothers d hd)
        · exact absurd hk.symm (hnone c List.mem_cons_self)
    · rw [if_neg hk]
      simp [Ne.symm hk]

namespace Server

/-- **Each file of a configuration is shared under its key, and the client script under its own if
no file has that.** -/
theorem get?_resourcesOf {files : List Config.File}
    (hkeys : files.Pairwise fun f g => f.key ≠ g.key) (start : Time.Instant) (key : ResourceKey)
    (r : Resource) :
    (resourcesOf files start).get? key = some r ↔
      (∃ f ∈ files, f.key = key ∧ .file f.resource = r) ∨
        (∀ f ∈ files, f.key ≠ key) ∧ key = scriptKey ∧ .bytes (.clientScript start) = r := by
  have hscript : (Registry.insert {} scriptKey (.bytes (.clientScript start))).get? key = some r ↔
      key = scriptKey ∧ .bytes (.clientScript start) = r := by
    rw [Registry.get?_insert]
    by_cases hkey : key = scriptKey
    · simp [hkey]
    · simp [hkey, Registry.get?]
  rw [resourcesOf, get?_foldl_eq_some_iff Config.File.key (fun f => .file f.resource)
    (fun registry f k => Registry.get?_insert registry f.key k (.file f.resource)) hkeys, hscript]

end Server

namespace SuggestionFields

/-- **Each suggestion field of a configuration is kept under its id.** -/
theorem get?_ofList {suggestions : List Config.Suggestions}
    (hids : suggestions.Pairwise fun s t => s.id ≠ t.id) (id : String) (field : SuggestionField) :
    (ofList (suggestions.map Config.Suggestions.field)).get? id = some field ↔
      ∃ s ∈ suggestions, s.id = id ∧ s.field = field := by
  have hids : (suggestions.map Config.Suggestions.field).Pairwise fun a b => a.id ≠ b.id :=
    List.pairwise_map.mpr hids
  have hempty : (SuggestionFields.get? {} id = some field) ↔ False := by simp [get?]
  rw [ofList, get?_foldl_eq_some_iff SuggestionField.id (fun field => field) get?_insert hids,
    hempty, and_false, or_false]
  constructor
  · rintro ⟨_, hmem, hid, rfl⟩
    obtain ⟨s, hs, rfl⟩ := List.mem_map.mp hmem
    exact ⟨s, hs, hid, rfl⟩
  · rintro ⟨s, hs, hid, rfl⟩
    exact ⟨s.field, List.mem_map_of_mem hs, hid, rfl⟩

end SuggestionFields

end WebMount
