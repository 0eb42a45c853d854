import WebMount.Form.History
import WebMount.Proofs.Form.Validation

/-!
# Labels follow the texts

A component keeps the label that the texts of its form give to it, so a form has two copies of every
label. They agree (`Labelled`) because a text that is set is handed on to all components, a
component that is added is given its label then, and nothing else touches either copy. That is what
a step keeps (`Labelled.step`), and a run by induction (`Labelled.after`). The texts of a run are
those that were set last (`labelFor?_after`) and its components those that were added
(`map_id_after`), so the labels are told by these two alone, in whatever order they came
(`labels_follow_texts`). Every message of a validation but the refusal of an input calls the
component by its label (`errors_validate`, `names_errorsAs`).
-/

namespace WebMount.Form

open WebMount.Text

variable {f : Form} {s : Step}

/-! ### What is kept of a component -/

/-- The id of a component, and the label that the texts give to it. -/
def Component.tag (c : Component) : String × Option String :=
  (c.id, c.formLabel)

theorem Component.tag_perform (c : Component) {operation : Operation}
    (h : operation.isOfForm = false) : (c.perform operation).tag = c.tag := by
  cases operation with
  | formLabel label => exact absurd h (by simp [Operation.isOfForm])
  | convert =>
    have hkept := congrArg Component.tag c.convertInput_keeps.1
    exact hkept
  | validate =>
    have hkept := congrArg Component.tag c.validate_keeps.1
    exact hkept
  | _ => rfl

/-- The ids and the labels of the components, in order. -/
def tags (f : Form) : List (String × Option String) :=
  f.components.map Component.tag

theorem tags_submit (f : Form) (body : String) : (f.submit body).2.tags = f.tags := by
  have htag : Component.tag ∘ Component.declared = Component.tag := rfl
  have hdeclared := congrArg (List.map Component.tag) (f.declared_submit body)
  simpa only [tags, declared, List.map_map, htag] using hdeclared

theorem tags_use (f : Form) (id : String) {operation : Operation}
    (h : operation.isOfForm = false) :
    (f.modify id fun c => ((), c.perform operation)).2.tags = f.tags :=
  map_modifyFirst (fun c => c.tag_perform h) id f.components

/-! ### The two copies of a label -/

/-- Every component has the label that the texts give to it. -/
def Labelled (f : Form) : Prop :=
  ∀ tag ∈ f.tags, tag.2 = f.labelFor? tag.1

theorem labelled_create (id : String) : (create id).Labelled :=
  fun _ h => absurd h List.not_mem_nil

/-- **A step keeps the two copies of every label the same.** -/
theorem Labelled.step (h : f.Labelled) (s : Step) : (f.step s).Labelled := by
  intro tag htag
  cases s with
  | text key text =>
    -- the components are all labelled anew
    simp only [Form.step, setText, tags, List.map_map, List.mem_map] at htag
    obtain ⟨c, -, rfl⟩ := htag
    rfl
  | add c =>
    simp only [Form.step, Form.add, tags, List.map_append, List.mem_append, List.map_cons,
      List.map_nil, List.mem_singleton] at htag
    rcases htag with hold | rfl
    · exact h tag hold
    · rfl
  | use id operation hown =>
    rw [Form.step, tags_use f id hown] at htag
    exact h tag htag
  | submit body =>
    rw [Form.step, tags_submit] at htag
    exact h tag htag

/-- **A run keeps the two copies of every label the same.** -/
theorem Labelled.after (h : f.Labelled) (steps : List Step) : (f.after steps).Labelled := by
  induction steps generalizing f with
  | nil => exact h
  | cons s steps ih => exact ih (h.step s)

/-! ### What a run leaves -/

theorem id_step (f : Form) (s : Step) : (f.step s).id = f.id := by
  cases s <;> rfl

theorem id_after (f : Form) (steps : List Step) : (f.after steps).id = f.id := by
  induction steps generalizing f with
  | nil => rfl
  | cons s steps ih => exact (ih (f.step s)).trans (f.id_step s)

theorem map_id_step (f : Form) (s : Step) : (f.step s).components.map Component.id =
    f.components.map Component.id ++ s.added?.toList.map Component.id := by
  have hfst : ∀ g : Form, g.components.map Component.id = g.tags.map Prod.fst := by
    intro g
    rw [tags, List.map_map]
    rfl
  cases s with
  | text key text =>
    simp only [Form.step, setText, List.map_map, Step.added?, Option.toList_none, List.map_nil,
      List.append_nil]
    rfl
  | add c =>
    simp only [Form.step, Form.add, List.map_append, Step.added?, Option.toList_some]
    rfl
  | use id operation hown =>
    rw [hfst, hfst, Form.step, tags_use f id hown]
    exact (List.append_nil _).symm
  | submit body =>
    rw [hfst, hfst, Form.step, tags_submit]
    exact (List.append_nil _).symm

/-- **The components of a run are those that were added**, in this order. -/
theorem map_id_after (f : Form) (steps : List Step) : (f.after steps).components.map Component.id =
    f.components.map Component.id ++ (steps.filterMap Step.added?).map Component.id := by
  induction steps generalizing f with
  | nil => exact (List.append_nil _).symm
  | cons s steps ih =>
    have hrest := ih (f.step s)
    rw [map_id_step, List.append_assoc, ← List.map_append] at hrest
    rw [List.filterMap_cons]
    cases h : s.added? <;> rw [h] at hrest <;> exact hrest

theorem lookup_texts_step (f : Form) (s : Step) (key : String) :
    (f.step s).texts.lookup key = (s.textFor? key).or (f.texts.lookup key) := by
  cases s with
  | text k t =>
    have hset : (f.setText k t).texts = (k, t) :: f.texts := rfl
    rw [Form.step, hset, List.lookup_cons, Step.textFor?]
    by_cases hkey : k = key
    · simp [hkey]
    · simp [hkey, beq_false_of_ne (Ne.symm hkey)]
  | _ => rfl

theorem lastText?_cons (key : String) (s : Step) (steps : List Step) :
    lastText? key (s :: steps) = (lastText? key steps).or (s.textFor? key) := by
  have hcons : (s :: steps).filterMap (Step.textFor? key) =
      (s.textFor? key).toList ++ steps.filterMap (Step.textFor? key) := by
    rw [List.filterMap_cons]
    cases s.textFor? key <;> rfl
  rw [lastText?, hcons, List.getLast?_append, lastText?]
  cases s.textFor? key <;> rfl

/-- **The text that was set last counts.** -/
theorem lookup_texts_after (f : Form) (steps : List Step) (key : String) :
    (f.after steps).texts.lookup key = (lastText? key steps).or (f.texts.lookup key) := by
  induction steps generalizing f with
  | nil => rfl
  | cons s steps ih =>
    calc ((f.step s).after steps).texts.lookup key
        = (lastText? key steps).or ((s.textFor? key).or (f.texts.lookup key)) := by
          rw [ih, lookup_texts_step]
      _ = (lastText? key (s :: steps)).or (f.texts.lookup key) := by
          rw [lastText?_cons, Option.or_assoc]

/-- The label of a component whose form gives it a text is this text, or else its id. -/
theorem Labelled.defaultLabel (h : f.Labelled) {c : Component} (hc : c ∈ f.components) :
    c.defaultLabel = (f.labelFor? c.id).getD c.id := by
  have hlabel : c.formLabel = f.labelFor? c.id := h c.tag (List.mem_map_of_mem hc)
  rw [Component.defaultLabel, hlabel]

theorem labelFor?_after (id componentId : String) (steps : List Step) :
    ((create id).after steps).labelFor? componentId =
      lastText? (id ++ "." ++ componentId) steps := by
  rw [labelFor?, id_after, lookup_texts_after]
  exact Option.or_none

/-! ### Messages -/

/-- A message calls a component by a label. -/
def Names (label message : String) : Prop :=
  ("'" ++ label ++ "'").toList <+: message.toList

theorem names_quoted {label tail : String} (h : ['\''] <+: tail.toList) :
    Names label ("'" ++ label ++ tail) := by
  simp only [Names, String.toList_append]
  exact (List.prefix_append_right_inj _).mpr h

theorem Names.append {label message : String} (h : Names label message) (rest : String) :
    Names label (message ++ rest) := by
  simp only [Names, String.toList_append] at h ⊢
  exact h.trans (List.prefix_append _ _)

/-- A message that is reported under a condition, if it is reported. -/
theorem names_of_mem_ite {p : Prop} [Decidable p] {label text message : String}
    (htext : Names label text) (h : message ∈ if p then [text] else []) : Names label message := by
  split at h
  · obtain rfl := List.mem_singleton.mp h
    exact htext
  · exact absurd h List.not_mem_nil

namespace Validator

/-- A validator that calls the component by its label in every message. -/
def NamesLabel (v : Validator) : Prop :=
  ∀ label value valid, ∀ message ∈ v.errors label value valid, Names label message

theorem names_lengthErrors (min max : Option Nat) (label : String) (n : Nat) :
    ∀ message ∈ lengthErrors min max label n, Names label message := by
  have hmust : ∀ {tail : String}, ['\''] <+: tail.toList → Names label ("'" ++ label ++ tail) :=
    names_quoted
  intro message h
  rcases min with _ | min <;> rcases max with _ | max
  · exact absurd h List.not_mem_nil
  · exact names_of_mem_ite (((hmust (by decide)).append _).append _) h
  · exact names_of_mem_ite (((hmust (by decide)).append _).append _) h
  · exact names_of_mem_ite (((((hmust (by decide)).append _).append _).append _).append _) h

/-- The validators of lengths and of ranges call the component by its label, whatever their bounds
are. -/
theorem namesLabel_length (min max : Option Nat) : (length min max).NamesLabel := by
  intro label value valid message h
  rw [errors] at h
  split at h
  · exact names_lengthErrors min max label _ message h
  · exact absurd h List.not_mem_nil

theorem namesLabel_range (min max : Number.Binary) : (range min max).NamesLabel := by
  intro label value valid message h
  rw [errors] at h
  split at h
  · exact names_of_mem_ite ((((names_quoted (by decide)).append _).append _).append _) h
  · exact absurd h List.not_mem_nil

/-- Validators of lengths and of ranges need not be asked about; any other one reports what it is
made to report. -/
theorem namesLabel_of_custom {vs : List Validator}
    (h : ∀ acceptsMissing report, custom acceptsMissing report ∈ vs →
      ∀ label value valid, ∀ message ∈ report label value valid, Names label message) :
    ∀ v ∈ vs, v.NamesLabel := by
  intro v hv
  cases v with
  | length min max => exact namesLabel_length min max
  | range min max => exact namesLabel_range min max
  | custom acceptsMissing report => exact h acceptsMissing report hv

/-- Every message is one that was there before or one of a validator. -/
theorem mem_collect {label message : String} {value : Option Value} {reported : List String}
    {vs : List Validator} (h : message ∈ collect label value reported vs) :
    message ∈ reported ∨ ∃ v ∈ vs, ∃ valid, message ∈ v.errors label value valid := by
  induction vs generalizing reported with
  | nil => exact .inl h
  | cons v vs ih =>
    have hlater : (∃ w ∈ vs, ∃ valid, message ∈ w.errors label value valid) →
        ∃ w ∈ v :: vs, ∃ valid, message ∈ w.errors label value valid :=
      fun ⟨w, hw, hmessage⟩ => ⟨w, List.mem_cons_of_mem v hw, hmessage⟩
    rw [collect] at h
    split at h
    · rcases ih h with hreported | hvalidators
      · rcases List.mem_append.mp hreported with hbefore | hnow
        · exact .inl hbefore
        · exact .inr ⟨v, List.mem_cons_self, _, hnow⟩
      · exact .inr (hlater hvalidators)
    · exact (ih h).imp_right hlater

/-- Validators that call the component by its label do so in all that they report together. -/
theorem names_collect {vs : List Validator} (hvs : ∀ v ∈ vs, v.NamesLabel) (label : String)
    (value : Option Value) : ∀ message ∈ collect label value [] vs, Names label message := by
  intro message h
  rcases mem_collect h with hnil | ⟨v, hv, valid, hmessage⟩
  · exact absurd hnil List.not_mem_nil
  · exact hvs v hv label value valid message hmessage

end Validator

namespace Component

/-- The errors of a component in a validation that calls it by a label. -/
def errorsAs (label : String) (c : Component) : List String :=
  match c.filledInput? with
  | none =>
    if c.required then [s!"'{label}' is required"]
    else Validator.collect label none [] c.validators
  | some s =>
    match c.type.convert s with
    | .ok value => Validator.collect label (some value) [] c.validators
    | .error e => [e.message]

/-- **The errors of a validation call the component by its label.** -/
theorem errors_validate (c : Component) : c.validate.2.errors = c.errorsAs c.label := by
  rcases c.blank_or_filled with hblank | ⟨s, hfilled⟩
  · rw [errorsAs, filledInput?_eq_none_iff.mpr hblank]
    cases hrequired : c.required with
    | false => rw [validate_of_absent hrequired hblank]; rfl
    | true => rw [validate_of_missing hrequired hblank]; rfl
  · rw [errorsAs, filledInput?_eq_some_iff.mpr hfilled]
    cases hconvert : c.type.convert s with
    | error e => simp only [validate_of_refused hfilled hconvert, hconvert]
    | ok value => simp only [validate_of_present hfilled hconvert, hconvert]

/-- **Every message but the refusal of an input calls the component by its label.** -/
theorem names_errorsAs {c : Component} {label : String} (hvs : ∀ v ∈ c.validators, v.NamesLabel)
    (haccepted : ∀ s e, c.Filled s → c.type.convert s ≠ .error e) :
    ∀ message ∈ c.errorsAs label, Names label message := by
  intro message h
  rw [errorsAs] at h
  split at h
  · split at h
    · obtain rfl := List.mem_singleton.mp h
      exact names_quoted (by decide)
    · exact Validator.names_collect hvs label none message h
  · next s hfilled =>
    split at h
    · exact Validator.names_collect hvs label _ message h
    · next e hconvert => exact absurd hconvert (haccepted s e (filledInput?_eq_some_iff.mp hfilled))

end Component

/-! ### Labels after any run -/

/-- The labels of components are told by those that they were given themselves and those that they
have otherwise. -/
theorem map_label (cs : List Component) : cs.map Component.label =
    List.zipWith Option.getD (cs.map Component.ownLabel) (cs.map Component.defaultLabel) := by
  rw [List.zipWith_map, List.zipWith_self]
  rfl

/-- A component that was just validated has the errors that another validation finds. -/
theorem errors_of_mem_submit {body : String} {c : Component}
    (hc : c ∈ (f.submit body).2.components) : c.validate.2.errors = c.errors := by
  obtain ⟨i, hi⟩ := List.mem_iff_getElem?.mp hc
  rw [getElem?_submit, Option.map_eq_some_iff] at hi
  obtain ⟨b, -, rfl⟩ := hi
  rw [Component.validate_validate]

/-- **The labels of a run are the texts that were set last.** -/
theorem map_defaultLabel_after (id : String) (steps : List Step) :
    ((create id).after steps).components.map Component.defaultLabel =
      ((steps.filterMap Step.added?).map Component.id).map fun componentId =>
        (lastText? (id ++ "." ++ componentId) steps).getD componentId := by
  have hlabelled : ((create id).after steps).Labelled := (labelled_create id).after steps
  have hids := map_id_after (create id) steps
  rw [create, List.map_nil, List.nil_append] at hids
  rw [← hids, List.map_map]
  refine List.map_congr_left fun c hc => ?_
  rw [hlabelled.defaultLabel hc, labelFor?_after]
  rfl

/-- **Labels follow the texts in every order of operations.** A form that was used in any way has
the components that were added, in this order, and each of them is labelled with the text that was
set last for it, before or after it was added, or else with its id; a label that it brought along
from elsewhere does not count. So two runs with components of the same ids in the same order and the
same last texts give the same labels, whatever else was done in between and in whatever order. In a
submission, the errors of each component are those of a validation that calls it by its own label or
else by this one. So does every message that does not refuse an input: that a component is missing,
that a text has the wrong length, that a number is out of range, and whatever else is reported by
validators that use the label they are given. -/
theorem labels_follow_texts (id : String) (steps : List Step) :
    let f := (create id).after steps
    let given := fun c : Component => (lastText? (id ++ "." ++ c.id) steps).getD c.id
    let called := fun c : Component => c.ownLabel.getD (given c)
    f.components.map Component.id = (steps.filterMap Step.added?).map Component.id ∧
    f.components.map Component.defaultLabel = (steps.filterMap Step.added?).map given ∧
    (∀ others : List Step,
      (others.filterMap Step.added?).map Component.id =
        (steps.filterMap Step.added?).map Component.id →
      (∀ key, lastText? key others = lastText? key steps) →
      let g := (create id).after others
      g.components.map Component.defaultLabel = f.components.map Component.defaultLabel ∧
      (g.components.map Component.ownLabel = f.components.map Component.ownLabel →
        g.components.map Component.label = f.components.map Component.label)) ∧
    ∀ body : String,
      (∀ i : Nat, (f.submit body).2.components[i]?.map Component.errors =
        f.components[i]?.map fun c =>
          (c.setInput (inputFor (UrlEncoded.decode body) (f.components.take i) c)).errorsAs
            (called c)) ∧
      ∀ c ∈ (f.submit body).2.components,
        (∀ acceptsMissing report, .custom acceptsMissing report ∈ c.validators →
          ∀ label value valid, ∀ message ∈ report label value valid, Names label message) →
        (∀ s e, c.Filled s → c.type.convert s ≠ .error e) →
        ∀ message ∈ c.errors, Names (called c) message := by
  intro f given called
  have hlabelled : f.Labelled := (labelled_create id).after steps
  have hcalled : ∀ c ∈ f.components, c.label = called c := by
    intro c hc
    rw [Component.label, hlabelled.defaultLabel hc, labelFor?_after]
  have hids : f.components.map Component.id = (steps.filterMap Step.added?).map Component.id :=
    map_id_after (create id) steps
  have hlabels : f.components.map Component.defaultLabel =
      (steps.filterMap Step.added?).map given := by
    rw [map_defaultLabel_after, List.map_map]
    rfl
  refine ⟨hids, hlabels, fun others hadded htexts => ?_, fun body => ?_⟩
  · intro g
    have hsame : g.components.map Component.defaultLabel =
        f.components.map Component.defaultLabel := by
      rw [map_defaultLabel_after, map_defaultLabel_after, hadded]
      simp only [htexts]
    refine ⟨hsame, fun hown => ?_⟩
    rw [map_label, map_label, hown, hsame]
  have herrors : ∀ i : Nat, (f.submit body).2.components[i]?.map Component.errors =
      f.components[i]?.map fun c =>
        (c.setInput (inputFor (UrlEncoded.decode body) (f.components.take i) c)).errorsAs
          (called c) := by
    intro i
    rw [getElem?_submit, Option.map_map]
    refine Option.map_congr fun c hc => ?_
    rw [Function.comp_apply, Component.errors_validate, ← hcalled c (List.mem_of_getElem? hc)]
    rfl
  refine ⟨herrors, fun c hc hcustom haccepted => ?_⟩
  have hlabel : c.label = called c := by
    rw [Component.label, (hlabelled.step (.submit body)).defaultLabel hc]
    exact congrArg (fun t : Option String => c.ownLabel.getD (t.getD c.id))
      (labelFor?_after id c.id steps)
  rw [← errors_of_mem_submit hc, Component.errors_validate, hlabel]
  exact Component.names_errorsAs (Validator.namesLabel_of_custom hcustom) haccepted

/-- Texts are set before a component is added, after that, and once more; a component brings along
a label from elsewhere, and another one is given a label of its own. The third one has none and is
called by its id. -/
theorem labels_follow_texts_order :
    let age : Component :=
      { id := "age", type := ⟨.int .int32, 0⟩, formLabel := some "Stale", required := true }
    let pin : Component := { id := "pin", validators := [.length (some 2) none] }
    let size : Component :=
      { id := "size", type := ⟨.int .int32, 0⟩,
        validators := [.range (.ofInt Number.binary64 1) (.ofInt Number.binary64 5)] }
    let steps : List Step := [.text "order.pin" "Code", .add age, .text "order.age" "Old", .add pin,
      .submit "age=7", .use "pin" (.label "PIN") rfl, .add size, .text "order.age" "Age",
      .text "pin" "?"]
    let others : List Step := [.add { id := "age" }, .add { id := "pin" }, .add { id := "size" },
      .text "pin" "?", .text "order.pin" "Code", .text "order.age" "Age"]
    let f := (create "order").after steps
    f.components.map Component.defaultLabel = ["Age", "Code", "size"] ∧
    ((create "order").after others).components.map Component.defaultLabel =
      ["Age", "Code", "size"] ∧
    (f.submit "pin=1&size=7").2.errors =
      [("age", "'Age' is required"), ("pin", "'PIN' must be at least 2 characters long"),
        ("size", "'size' must be between 1 and 5")] ∧
    Names "PIN" "'PIN' must be at least 2 characters long" ∧
    Names "size" "'size' must be between 1 and 5" := by
  intro age pin size steps others f
  obtain ⟨-, hlabels, hothers, hsubmit⟩ := labels_follow_texts "order" steps
  have hlabels : f.components.map Component.defaultLabel = ["Age", "Code", "size"] := hlabels
  have htexts : ∀ key, lastText? key others = lastText? key steps := by
    intro key
    by_cases hpin : "order.pin" = key
    · subst hpin; decide
    by_cases hage : "order.age" = key
    · subst hage; decide
    by_cases hother : "pin" = key
    · subst hother; decide
    simp only [lastText?, steps, others, List.filterMap_cons, List.filterMap_nil, Step.textFor?,
      hpin, hage, hother, if_false]
  obtain ⟨-, hmessages⟩ := hsubmit "pin=1&size=7"
  have hpin : ∃ c ∈ (f.submit "pin=1&size=7").2.components, c.ownLabel = some "PIN" ∧
      c.type = .standard ∧ c.validators = [.length (some 2) none] ∧
      c.errors = ["'PIN' must be at least 2 characters long"] :=
    ⟨_, List.mem_cons_of_mem _ List.mem_cons_self, rfl, rfl, rfl, by decide⟩
  have hsize : ∃ c ∈ (f.submit "pin=1&size=7").2.components, c.ownLabel = none ∧ c.id = "size" ∧
      c.type = ⟨.int .int32, 0⟩ ∧ c.filledInput? = some "7" ∧ c.validators = size.validators ∧
      c.errors = ["'size' must be between 1 and 5"] :=
    ⟨_, List.mem_cons_of_mem _ (List.mem_cons_of_mem _ List.mem_cons_self), rfl, rfl, rfl,
      by decide, rfl, by decide +kernel⟩
  refine ⟨hlabels, (hothers others rfl htexts).1.trans hlabels, by decide +kernel, ?_, ?_⟩
  · obtain ⟨c, hc, hown, htype, hvs, herrors⟩ := hpin
    have hnames := hmessages c hc (fun acceptsMissing report hcustom => ?_) (fun s e _ => ?_) _
      (herrors ▸ List.mem_singleton_self _)
    · simpa only [hown, Option.getD_some] using hnames
    · rw [hvs, List.mem_singleton] at hcustom
      exact nomatch hcustom
    · -- every text is accepted as a text
      rw [htype]
      exact fun herror => nomatch herror
  · obtain ⟨c, hc, hown, hid, htype, hfilled, hvs, herrors⟩ := hsize
    have hnames := hmessages c hc (fun acceptsMissing report hcustom => ?_) (fun s e hs => ?_) _
      (herrors ▸ List.mem_singleton_self _)
    · simp only [hown, Option.getD_none, hid] at hnames
      exact hnames
    · rw [hvs, List.mem_singleton] at hcustom
      exact nomatch hcustom
    · obtain rfl := Option.some.inj (hfilled.symm.trans (Component.filledInput?_eq_some_iff.mpr hs))
      rw [htype]
      exact fun herror => nomatch herror

end WebMount.Form
