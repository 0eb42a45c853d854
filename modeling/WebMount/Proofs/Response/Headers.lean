import WebMount.Response.Headers

/-!
# Fields set one after the other

Setting fields of different names, none of which is there yet, appends them in order
(`Headers.setAll_of_nodup`).
-/

namespace WebMount

/-- A pair is put behind the others if its key is new. -/
theorem put_of_not_mem {α β : Type} [DecidableEq α] {key : α} {value : β} {l : List (α × β)}
    (h : key ∉ l.map Prod.fst) : put key value l = l ++ [(key, value)] := by
  have hkeep : without key l = l := by
    refine List.filter_eq_self.mpr fun e he => ?_
    have hne : e.1 ≠ key := by
      rintro rfl
      exact h (List.mem_map_of_mem he)
    exact decide_eq_true hne
  rw [put, hkeep]

namespace Headers

/-- The fields with others set one after the other. -/
def setAll (h : Headers) (fields : List (String × String)) : Headers :=
  fields.foldl (fun h f => h.set f.1 f.2) h

/-- Fields of new and different names are appended. -/
theorem setAll_of_nodup {h : Headers} {fields : List (String × String)}
    (hlower : ∀ f ∈ fields, canonicalName f.1 = f.1)
    (hnodup : ((h.fields ++ fields).map Prod.fst).Nodup) :
    h.setAll fields = ⟨h.fields ++ fields⟩ := by
  induction fields generalizing h with
  | nil => rw [List.append_nil]; rfl
  | cons f fields ih =>
    have hname : canonicalName f.1 = f.1 := hlower f List.mem_cons_self
    have hnew : f.1 ∉ h.fields.map Prod.fst := by
      rw [List.map_append, List.map_cons, List.nodup_append] at hnodup
      intro hmem
      exact hnodup.2.2 _ hmem _ List.mem_cons_self rfl
    have hset : h.set f.1 f.2 = ⟨h.fields ++ [f]⟩ := by
      rw [set, hname, put_of_not_mem hnew]
    have hrest := @ih ⟨h.fields ++ [f]⟩ (fun g hg => hlower g (List.mem_cons_of_mem _ hg))
      (by rwa [List.append_assoc])
    rw [setAll, List.foldl_cons, hset, ← setAll, hrest, List.append_assoc]
    rfl

end Headers

end WebMount
