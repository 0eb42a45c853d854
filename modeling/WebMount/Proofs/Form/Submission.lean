import WebMount.Form.Basic

/-!
# A submission forgets the ones before it

What a form keeps besides its set-up is the input, the value and the errors of each component. A
submission gives every component an input, drops the value it was converted to before, and
validation begins with no errors, so what a submission leaves is told by the set-up and the body
alone (`Component.validate_setInput`, `submit_of_declared`). The calls that are made between two
submissions keep the set-up (`declared_run`), so whatever they were, the next submission ends the
same way (`submit_forgets`).
-/

namespace WebMount

open WebMount.Form

/-! ### One component -/

namespace Form.Component

/-- The component as it is set up: without input, value and errors. -/
def declared (c : Component) : Component :=
  { c with input := none, converted := none, errors := [] }

theorem declared_setInput (c : Component) (input : Option String) :
    (c.setInput input).declared = c.declared :=
  rfl

theorem convertInput_keeps (c : Component) :
    c.convertInput.2.declared = c.declared ∧ c.convertInput.2.input = c.input := by
  unfold convertInput
  split
  · exact ⟨rfl, rfl⟩
  · split <;> exact ⟨rfl, rfl⟩

/-- Validation keeps the set-up and the input. -/
theorem validate_keeps (c : Component) :
    c.validate.2.declared = c.declared ∧ c.validate.2.input = c.input := by
  have hconvert := convertInput_keeps { c with errors := [] }
  unfold validate
  dsimp only
  split
  · exact ⟨rfl, rfl⟩
  · split
    · next hresult =>
      rw [hresult] at hconvert
      exact hconvert
    · next hresult =>
      rw [hresult] at hconvert
      exact hconvert

/-- **Validation of a new input looks at the set-up only.** -/
theorem validate_setInput (c : Component) (input : Option String) :
    (c.setInput input).validate = (c.declared.setInput input).validate :=
  rfl

/-- Conversion that fails leaves an error. -/
theorem errors_ne_nil_of_convertInput {c : Component} (h : c.convertInput.1 = false) :
    c.convertInput.2.errors ≠ [] := by
  unfold convertInput at h ⊢
  split
  · next hblank =>
    rw [hblank] at h
    exact absurd h (by simp)
  · next input hinput =>
    rw [hinput] at h
    dsimp only at h
    split
    · next value hvalue =>
      rw [hvalue] at h
      exact absurd h (by simp)
    · simp

/-- A component is valid exactly if validation leaves no errors. -/
theorem validate_eq_true_iff (c : Component) : c.validate.1 = true ↔ c.validate.2.errors = [] := by
  have hconvert := @errors_ne_nil_of_convertInput { c with errors := [] }
  unfold validate
  dsimp only
  split
  · simp
  · split
    · next hresult =>
      rw [hresult] at hconvert
      simp [hconvert rfl]
    · simp [valid]

/-- A component without input has no value after validation, if it had none before. -/
theorem converted_validate {c : Component} (hinput : c.input = none) (hvalue : c.converted = none) :
    c.validate.2.converted = none := by
  have hblank : ({ c with errors := [] } : Component).filledInput? = none := by
    simp [filledInput?, hinput]
  unfold validate
  dsimp only
  split
  · exact hvalue
  · rw [convertInput, hblank]

end Form.Component

namespace Form

/-! ### Calls between submissions -/

/-- The components of a form as they are set up: id, labels, type, requirement and validators. -/
def declared (f : Form) : List Component :=
  f.components.map Component.declared

/-- A call on a form that is in use. The calls on one component are made on the first one of an
id. -/
inductive Call where
  | submit (body : String)
  | setInput (id : String) (input : Option String)
  | convert (id : String)
  | validate (id : String)

/-- The form after a call. -/
def call (f : Form) : Call → Form
  | .submit body => (f.submit body).2
  | .setInput id input => (f.modify id fun c => ((), c.setInput input)).2
  | .convert id => (f.modify id Component.convertInput).2
  | .validate id => (f.modify id Component.validate).2

/-- The form after calls, one after the other. -/
def run (f : Form) (calls : List Call) : Form :=
  calls.foldl call f

/-- What a change keeps of a component is kept of the first one of an id. -/
theorem map_modifyFirst {α β : Type} {change : Component → α × Component} {g : Component → β}
    (h : ∀ c, g (change c).2 = g c) (id : String) (cs : List Component) :
    (modifyFirst id change cs).2.map g = cs.map g := by
  induction cs with
  | nil => rfl
  | cons c cs ih =>
    rw [modifyFirst]
    split
    · rw [List.map_cons, List.map_cons, h]
    · rw [List.map_cons, List.map_cons, ih]

theorem map_declared_distribute (pairs : List (String × String)) (cs : List Component) :
    (distribute pairs cs).map Component.declared = cs.map Component.declared := by
  induction cs generalizing pairs with
  | nil => rfl
  | cons c cs ih => rw [distribute, List.map_cons, List.map_cons, ih, Component.declared_setInput]

theorem declared_submit (f : Form) (body : String) : (f.submit body).2.declared = f.declared := by
  have hvalidate : Component.declared ∘ (fun c : Component => c.validate.2) = Component.declared :=
    funext fun c => c.validate_keeps.1
  calc (f.submit body).2.declared
      = (distribute (UrlEncoded.decode body) f.components).map
          (Component.declared ∘ fun c => c.validate.2) := by
        simp only [submit, declared, List.map_map]
        rfl
    _ = f.declared := by rw [hvalidate, map_declared_distribute, declared]

/-- **A call keeps the set-up of a form.** -/
theorem declared_call (f : Form) (c : Call) : (f.call c).declared = f.declared := by
  cases c with
  | submit body => exact f.declared_submit body
  | setInput id input => exact map_modifyFirst (fun c => c.declared_setInput input) id _
  | convert id => exact map_modifyFirst (fun c => c.convertInput_keeps.1) id _
  | validate id => exact map_modifyFirst (fun c => c.validate_keeps.1) id _

/-- **Calls keep the set-up of a form.** -/
theorem declared_run (f : Form) (calls : List Call) : (f.run calls).declared = f.declared := by
  induction calls generalizing f with
  | nil => rfl
  | cons c calls ih =>
    have hrest := ih (f.call c)
    rw [declared_call] at hrest
    exact hrest

/-! ### One submission -/

/-- The input that a submission gives to a component: the first value of its id, unless a
component before it has that id. -/
def inputFor (pairs : List (String × String)) (before : List Component) (c : Component) :
    Option String :=
  if before.any fun b => b.id == c.id then none else UrlEncoded.valueOf? pairs c.id

/-- Every component gets the input that is meant for it. -/
theorem getElem?_distribute (pairs : List (String × String)) (cs : List Component) (i : Nat) :
    (distribute pairs cs)[i]? =
      cs[i]?.map fun c => c.setInput (inputFor pairs (cs.take i) c) := by
  induction cs generalizing pairs i with
  | nil => rfl
  | cons first cs ih =>
    cases i with
    | zero => rfl
    | succ i =>
      rw [distribute, List.getElem?_cons_succ, List.getElem?_cons_succ, ih]
      refine congrArg (Option.map · cs[i]?) (funext fun c => congrArg c.setInput ?_)
      -- behind a component of the same id nothing is left of the name
      rw [inputFor, inputFor, List.take_succ_cons, List.any_cons, UrlEncoded.valueOf?,
        lookup_without, UrlEncoded.valueOf?]
      by_cases hsame : first.id = c.id
      · simp [hsame]
      · simp [hsame, Ne.symm hsame]

/-- **Every component is validated with its own input**, whether or not an earlier one is valid. -/
theorem getElem?_submit (f : Form) (body : String) (i : Nat) :
    (f.submit body).2.components[i]? = f.components[i]?.map fun c =>
      (c.setInput (inputFor (UrlEncoded.decode body) (f.components.take i) c)).validate.2 := by
  have hcomponents : (f.submit body).2.components =
      (distribute (UrlEncoded.decode body) f.components).map fun c => c.validate.2 := by
    simp only [submit, List.map_map]
    rfl
  rw [hcomponents, List.getElem?_map, getElem?_distribute, Option.map_map]
  rfl

theorem distribute_map_validate {cs ds : List Component}
    (h : cs.map Component.declared = ds.map Component.declared) (pairs : List (String × String)) :
    (distribute pairs cs).map Component.validate =
      (distribute pairs ds).map Component.validate := by
  induction cs generalizing ds pairs with
  | nil =>
    have hnil : ds = [] := List.map_eq_nil_iff.mp h.symm
    rw [hnil]
  | cons c cs ih =>
    obtain ⟨d, ds, rfl⟩ : ∃ d ds', ds = d :: ds' :=
      List.exists_cons_of_ne_nil fun hnil => by simp [hnil] at h
    rw [List.map_cons, List.map_cons, List.cons.injEq] at h
    have hid : c.declared.id = d.declared.id := congrArg Component.id h.1
    rw [distribute, distribute, List.map_cons, List.map_cons, ih h.2, c.validate_setInput,
      d.validate_setInput, h.1, show c.id = d.id from hid]

/-- **What a submission does is told by the set-up of the form.** -/
theorem submit_of_declared {f g : Form} (h : f.declared = g.declared) (body : String) :
    (f.submit body).1 = (g.submit body).1 ∧
      (f.submit body).2.components = (g.submit body).2.components := by
  have hresults := distribute_map_validate h (UrlEncoded.decode body)
  simp only [submit]
  rw [hresults]
  exact ⟨rfl, rfl⟩

/-- A form is valid exactly if a submission leaves no errors in it. -/
theorem submit_eq_true_iff (f : Form) (body : String) :
    (f.submit body).1 = true ↔ (f.submit body).2.errors = [] := by
  simp only [submit, errors, List.all_eq_true, List.flatMap_eq_nil_iff, List.map_eq_nil_iff,
    List.forall_mem_map]
  exact forall₂_congr fun c _ => c.validate_eq_true_iff

/-- **A submission that is made twice changes nothing more.** -/
theorem submit_submit (f : Form) (body : String) :
    (f.submit body).2.submit body = f.submit body := by
  obtain ⟨hvalid, hcomponents⟩ := submit_of_declared (f.declared_submit body) body
  refine Prod.ext hvalid ?_
  calc ((f.submit body).2.submit body).2
      = { f with components := ((f.submit body).2.submit body).2.components } := rfl
    _ = { f with components := (f.submit body).2.components } := by rw [hcomponents]
    _ = (f.submit body).2 := rfl

theorem inputFor_of_not_mem {pairs : List (String × String)} {c : Component}
    (h : c.id ∉ pairs.map Prod.fst) (before : List Component) : inputFor pairs before c = none := by
  have hlookup : pairs.lookup c.id = none := by
    rw [List.lookup_eq_none_iff]
    intro pair hpair
    rw [bne_iff_ne]
    intro hname
    exact h (List.mem_map.mpr ⟨pair, hpair, hname.symm⟩)
  rw [inputFor, UrlEncoded.valueOf?, hlookup, ite_self]

/-- A component that a body does not name has no input and no value after the submission. -/
theorem blank_of_not_mem {f : Form} {body : String} {c : Component}
    (hc : c ∈ (f.submit body).2.components)
    (hname : c.id ∉ (UrlEncoded.decode body).map Prod.fst) :
    c.input = none ∧ c.converted = none := by
  obtain ⟨i, hi⟩ := List.mem_iff_getElem?.mp hc
  rw [getElem?_submit, Option.map_eq_some_iff] at hi
  obtain ⟨b, -, rfl⟩ := hi
  have hkeeps := Component.validate_keeps
    (b.setInput (inputFor (UrlEncoded.decode body) (f.components.take i) b))
  have hid : b.id ∉ (UrlEncoded.decode body).map Prod.fst := by
    intro hmem
    refine hname ?_
    have hsame := congrArg Component.id hkeeps.1
    exact hsame.symm ▸ hmem
  rw [inputFor_of_not_mem hid] at hkeeps ⊢
  exact ⟨hkeeps.2, Component.converted_validate rfl rfl⟩

/-! ### Submissions after any history -/

/-- **A submission forgets the ones before it.** Two forms of the same set-up that were used in any
way, as one form with two histories is, end a submission of the same body with the same answer and
with the same input, value and errors in every component. The answer says whether there are errors,
a second submission of the body changes nothing, every component is validated with its own input,
and one that the body does not name has neither input nor value. -/
theorem submit_forgets {f g : Form} (h : f.declared = g.declared) (calls others : List Call)
    (body : String) :
    let ended := (f.run calls).submit body
    let other := (g.run others).submit body
    ended.1 = other.1 ∧ ended.2.components = other.2.components ∧
    (ended.1 = true ↔ ended.2.errors = []) ∧
    ended.2.submit body = ended ∧
    (∀ i : Nat, ended.2.components[i]? = f.components[i]?.map fun c =>
      (c.declared.setInput
        (inputFor (UrlEncoded.decode body) (f.components.take i) c)).validate.2) ∧
    ∀ c ∈ ended.2.components, c.id ∉ (UrlEncoded.decode body).map Prod.fst →
      c.input = none ∧ c.converted = none := by
  intro ended other
  have hkept : (f.run calls).declared = (g.run others).declared := by
    rw [declared_run, declared_run, h]
  obtain ⟨hvalid, hcomponents⟩ := submit_of_declared hkept body
  refine ⟨hvalid, hcomponents, submit_eq_true_iff _ body, submit_submit _ body, fun i => ?_,
    fun c => blank_of_not_mem⟩
  have hfresh : ended.2.components = (f.submit body).2.components :=
    (submit_of_declared (f.declared_run calls) body).2
  rw [hfresh, getElem?_submit]
  rfl

/-- A required number is left out after it was given: nothing of the first submission is left, and
the component behind it is validated all the same. -/
theorem submit_forgets_order :
    let age : Component := { id := "age", type := ⟨.int .int32, 0⟩, required := true }
    let name : Component := { id := "name", validators := [.length none (some 3)] }
    let f : Form := { id := "order", components := [age, name] }
    let g : Form := { id := "order", components := [age.setInput (some "7"), name] }
    f.declared = g.declared ∧
    ((f.run [.submit "age=31", .setInput "name" (some "x")]).submit "name=Anna").2.errors =
      [("age", "'age' is required"), ("name", "'name' must be at most 3 characters long")] ∧
    ((f.run [.submit "age=31", .setInput "name" (some "x")]).submit "name=Anna").2.components =
      ((g.run [.validate "age", .convert "name"]).submit "name=Anna").2.components := by
  intro age name f g
  have h : f.declared = g.declared := rfl
  exact ⟨h, by decide, (submit_forgets h _ _ _).2.1⟩

end Form

end WebMount
