import WebMount.Form.Operation
import WebMount.Proofs.Form.Submission

/-!
# What the validation of a component finds

Validation ends in one of four ways: a required field is left blank, the input does not convert, or
the validators are asked, without a value or with one (`Finding`). Each of them is told by an
equation for `validate`. The first one keeps the value that the component had before, which is none
as long as a blank component never has one. That is what every operation keeps (`settled_perform`),
and so it holds of a component with any history (`settled_run`). A component that was validated is
in the same case as before, so doing it again changes nothing (`validate_validate`).
-/

namespace WebMount.Form

open WebMount.Text

/-! ### Validators -/

namespace Validator

/-- A validator that looks at the label and the value only, and not at whether an error was reported
before it. -/
def OfValue (v : Validator) : Prop :=
  ∀ label value valid, v.errors label value valid = v.errors label value true

theorem ofValue_length (min max : Option Nat) : (length min max).OfValue :=
  fun _ _ _ => rfl

theorem ofValue_range (min max : Number.Binary) : (range min max).OfValue :=
  fun _ _ _ => rfl

/-- **The errors of validators are put one behind the other**, of those that are asked. -/
theorem collect_eq_append {vs : List Validator} (h : ∀ v ∈ vs, v.OfValue) (label : String)
    (value : Option Value) (reported : List String) :
    collect label value reported vs = reported ++
      (vs.filter fun v => value.isSome || v.acceptsMissing).flatMap
        (·.errors label value true) := by
  induction vs generalizing reported with
  | nil => simp [collect]
  | cons v vs ih =>
    obtain ⟨hv, hvs⟩ := List.forall_mem_cons.mp h
    rw [collect, ih hvs, ih hvs, hv, List.filter_cons]
    split
    · rw [List.flatMap_cons, List.append_assoc]
    · rfl

theorem collect_none {vs : List Validator} (h : ∀ v ∈ vs, v.OfValue) (label : String) :
    collect label none [] vs =
      (vs.filter acceptsMissing).flatMap (·.errors label none true) :=
  collect_eq_append h label none []

theorem collect_some {vs : List Validator} (h : ∀ v ∈ vs, v.OfValue) (label : String)
    (value : Value) :
    collect label (some value) [] vs = vs.flatMap (·.errors label (some value) true) := by
  have hall : vs.filter (fun v => (some value).isSome || v.acceptsMissing) = vs :=
    List.filter_eq_self.mpr fun _ _ => rfl
  rw [collect_eq_append h, hall, List.nil_append]

end Validator

namespace Component

variable {c : Component} {s : String}

/-! ### Input -/

/-- The component has no input, or there are only blanks in it. -/
def Blank (c : Component) : Prop :=
  ∀ s, c.input = some s → isAllBlank s = true

/-- The component has an input that is not blank. -/
def Filled (c : Component) (s : String) : Prop :=
  c.input = some s ∧ isAllBlank s = false

theorem filledInput?_eq_some_iff : c.filledInput? = some s ↔ c.Filled s := by
  rw [filledInput?, Option.filter_eq_some_iff, Bool.not_eq_true', Filled]

theorem filledInput?_eq_none_iff : c.filledInput? = none ↔ c.Blank := by
  simp [filledInput?, Option.filter_eq_none_iff, Blank]

theorem blank_or_filled (c : Component) : c.Blank ∨ ∃ s, c.Filled s := by
  cases h : c.filledInput? with
  | none => exact .inl (filledInput?_eq_none_iff.mp h)
  | some s => exact .inr ⟨s, filledInput?_eq_some_iff.mp h⟩

theorem Blank.not_filled (h : c.Blank) : ¬c.Filled s :=
  fun hs => absurd ((h s hs.1).symm.trans hs.2) (by simp)

/-! ### Findings -/

/-- What the validation of a component is to find: its errors, and the value that its input converts
to. -/
inductive Finding (c : Component) : List String → Option Value → Prop where
  /-- A required field is left blank. -/
  | missing (hrequired : c.required = true) (hblank : c.Blank) :
      Finding c [c.requiredError] none
  /-- The input does not convert. -/
  | refused {s : String} {e : ConversionError} (hfilled : c.Filled s)
      (hconvert : c.type.convert s = .error e) : Finding c [e.message] none
  /-- Without a value, the validators are asked that accept that. -/
  | absent (hrequired : c.required = false) (hblank : c.Blank) :
      Finding c ((c.validators.filter Validator.acceptsMissing).flatMap
        (·.errors c.label none true)) none
  /-- With a value, all validators are asked. -/
  | present {s : String} {value : Value} (hfilled : c.Filled s)
      (hconvert : c.type.convert s = .ok value) :
      Finding c (c.validators.flatMap (·.errors c.label (some value) true)) (some value)

theorem exists_finding (c : Component) : ∃ errors value, Finding c errors value := by
  rcases c.blank_or_filled with hblank | ⟨s, hfilled⟩
  · cases hrequired : c.required with
    | false => exact ⟨_, _, .absent hrequired hblank⟩
    | true => exact ⟨_, _, .missing hrequired hblank⟩
  · cases hconvert : c.type.convert s with
    | error e => exact ⟨_, _, .refused hfilled hconvert⟩
    | ok value => exact ⟨_, _, .present hfilled hconvert⟩

/-! ### The four ways of validation -/

theorem validate_of_missing (hrequired : c.required = true) (hblank : c.Blank) :
    c.validate = (false, { c with errors := [c.requiredError] }) :=
  if_pos ⟨hrequired, filledInput?_eq_none_iff.mpr hblank⟩

theorem validate_of_not_missing (h : ¬(c.required = true ∧ c.Blank)) :
    c.validate = match convertInput { c with errors := [] } with
      | (false, c) => (false, c)
      | (true, c) =>
        let c := { c with errors := Validator.collect c.label c.converted [] c.validators }
        (c.valid, c) :=
  if_neg fun hmissing => h ⟨hmissing.1, filledInput?_eq_none_iff.mp hmissing.2⟩

theorem validate_of_refused {e : ConversionError} (hfilled : c.Filled s)
    (hconvert : c.type.convert s = .error e) :
    c.validate = (false, { c with converted := none, errors := [e.message] }) := by
  have hinput : filledInput? { c with errors := [] } = some s :=
    filledInput?_eq_some_iff.mpr hfilled
  rw [validate_of_not_missing fun h => h.2.not_filled hfilled, convertInput, hinput]
  simp [hconvert]

theorem validate_of_absent (hrequired : c.required = false) (hblank : c.Blank) :
    let errors := Validator.collect c.label none [] c.validators
    c.validate = (errors.isEmpty, { c with converted := none, errors }) := by
  have hinput : filledInput? { c with errors := [] } = none :=
    filledInput?_eq_none_iff.mpr hblank
  rw [validate_of_not_missing (by simp [hrequired]), convertInput, hinput]
  rfl

theorem validate_of_present {value : Value} (hfilled : c.Filled s)
    (hconvert : c.type.convert s = .ok value) :
    let errors := Validator.collect c.label (some value) [] c.validators
    c.validate = (errors.isEmpty, { c with converted := some value, errors }) := by
  have hinput : filledInput? { c with errors := [] } = some s :=
    filledInput?_eq_some_iff.mpr hfilled
  rw [validate_of_not_missing fun h => h.2.not_filled hfilled, convertInput, hinput]
  simp [hconvert, valid, label, defaultLabel]

/-- What ends validation before a validator is asked ends it so whatever the validators are. -/
theorem validate_withValidators (hearly : (c.required = true ∧ c.Blank) ∨
      ∃ s e, c.Filled s ∧ c.type.convert s = .error e) (vs : List Validator) :
    ({ c with validators := vs } : Component).validate =
      (false, { c.validate.2 with validators := vs }) := by
  rcases hearly with ⟨hrequired, hblank⟩ | ⟨s, e, hfilled, hconvert⟩
  · rw [validate_of_missing hrequired hblank]
    exact validate_of_missing hrequired hblank
  · rw [validate_of_refused hfilled hconvert]
    exact validate_of_refused hfilled hconvert

/-- **Validation again changes nothing**: the component is in the same case as before. -/
theorem validate_validate (c : Component) : c.validate.2.validate = c.validate := by
  obtain ⟨errors, value, hfinding⟩ := c.exists_finding
  cases hfinding with
  | missing hrequired hblank =>
    rw [validate_of_missing hrequired hblank]
    exact validate_of_missing hrequired hblank
  | refused hfilled hconvert =>
    rw [validate_of_refused hfilled hconvert]
    exact validate_of_refused hfilled hconvert
  | absent hrequired hblank =>
    rw [validate_of_absent hrequired hblank]
    exact validate_of_absent hrequired hblank
  | present hfilled hconvert =>
    rw [validate_of_present hfilled hconvert]
    exact validate_of_present hfilled hconvert

/-! ### Histories -/

/-- A component that is blank has no value. -/
def Settled (c : Component) : Prop :=
  c.Blank → c.converted = none

theorem Settled.convertInput (c : Component) : c.convertInput.2.Settled := by
  intro hblank
  have hinput : c.filledInput? = none := by
    rw [filledInput?_eq_none_iff]
    exact fun s hs => hblank s (c.convertInput_keeps.2.trans hs)
  rw [Component.convertInput, hinput]

/-- A required field that is blank keeps its value, so it must not have one. -/
theorem Settled.validate (h : c.Settled) : c.validate.2.Settled := by
  obtain ⟨errors, value, hfinding⟩ := c.exists_finding
  cases hfinding with
  | missing hrequired hblank =>
    rw [validate_of_missing hrequired hblank]
    exact h
  | refused hfilled hconvert =>
    rw [validate_of_refused hfilled hconvert]
    exact fun _ => rfl
  | absent hrequired hblank =>
    rw [validate_of_absent hrequired hblank]
    exact fun _ => rfl
  | present hfilled _ =>
    exact fun hblank => absurd ⟨c.validate_keeps.2.trans hfilled.1, hfilled.2⟩ hblank.not_filled

/-- **An operation leaves no value behind in a blank component.** -/
theorem settled_perform (h : c.Settled) (operation : Operation) :
    (c.perform operation).Settled := by
  cases operation with
  | type | label | formLabel | required | validator => exact h
  | input input => exact fun _ => rfl
  | convert => exact .convertInput c
  | validate => exact h.validate

/-- **No history leaves a value behind in a blank component.** -/
theorem settled_run (h : c.Settled) (operations : List Operation) : (c.run operations).Settled := by
  induction operations generalizing c with
  | nil => exact h
  | cons operation operations ih => exact ih (settled_perform h operation)

theorem validators_perform (c : Component) (operation : Operation) :
    (c.perform operation).validators = c.validators ++ operation.validator?.toList := by
  cases operation with
  | validator v => rfl
  | convert =>
    have hkept := congrArg Component.validators c.convertInput_keeps.1
    exact hkept.trans (List.append_nil _).symm
  | validate =>
    have hkept := congrArg Component.validators c.validate_keeps.1
    exact hkept.trans (List.append_nil _).symm
  | _ => exact (List.append_nil _).symm

/-- The validators are those that were added, in this order. -/
theorem validators_run (c : Component) (operations : List Operation) :
    (c.run operations).validators = c.validators ++ operations.filterMap Operation.validator? := by
  induction operations generalizing c with
  | nil => exact (List.append_nil _).symm
  | cons operation operations ih =>
    have hrest := ih (c.perform operation)
    rw [validators_perform, List.append_assoc] at hrest
    rw [List.filterMap_cons]
    cases h : operation.validator? <;> rw [h] at hrest <;> exact hrest

/-! ### What is found -/

/-- **Validation finds what it is to find**, and nothing else. -/
theorem finding_iff (hsettled : c.Settled) (hvalidators : ∀ v ∈ c.validators, v.OfValue)
    {errors : List String} {value : Option Value} :
    Finding c errors value ↔ c.validate.2.errors = errors ∧ c.validate.2.converted = value := by
  have hfound : ∀ {errors value}, Finding c errors value →
      c.validate.2.errors = errors ∧ c.validate.2.converted = value := by
    intro errors value h
    cases h with
    | missing hrequired hblank =>
      rw [validate_of_missing hrequired hblank]
      exact ⟨rfl, hsettled hblank⟩
    | refused hfilled hconvert =>
      rw [validate_of_refused hfilled hconvert]
      exact ⟨rfl, rfl⟩
    | absent hrequired hblank =>
      rw [validate_of_absent hrequired hblank]
      exact ⟨Validator.collect_none hvalidators c.label, rfl⟩
    | present hfilled hconvert =>
      rw [validate_of_present hfilled hconvert]
      exact ⟨Validator.collect_some hvalidators c.label _, rfl⟩
  refine ⟨hfound, ?_⟩
  rintro ⟨rfl, rfl⟩
  obtain ⟨errors, value, hfinding⟩ := c.exists_finding
  obtain ⟨herrors, hvalue⟩ := hfound hfinding
  rwa [herrors, hvalue]

/-- The value after validation is what the input converts to. -/
theorem converted_validate_eq_some_iff (hsettled : c.Settled) {value : Value} :
    c.validate.2.converted = some value ↔
      ∃ s, c.Filled s ∧ c.type.convert s = .ok value := by
  constructor
  · intro hvalue
    obtain ⟨errors, found, hfinding⟩ := c.exists_finding
    cases hfinding with
    | missing hrequired hblank =>
      rw [validate_of_missing hrequired hblank] at hvalue
      exact nomatch (hsettled hblank).symm.trans hvalue
    | refused hfilled hconvert =>
      rw [validate_of_refused hfilled hconvert] at hvalue
      exact nomatch hvalue
    | absent hrequired hblank =>
      rw [validate_of_absent hrequired hblank] at hvalue
      exact nomatch hvalue
    | present hfilled hconvert =>
      rw [validate_of_present hfilled hconvert] at hvalue
      obtain rfl := Option.some.inj hvalue
      exact ⟨_, hfilled, hconvert⟩
  · rintro ⟨s, hfilled, hconvert⟩
    rw [validate_of_present hfilled hconvert]

/-- Validation changes the errors and the value only. -/
theorem validate_eq_with (c : Component) :
    c.validate.2 =
      { c with errors := c.validate.2.errors, converted := c.validate.2.converted } := by
  obtain ⟨hset, hinput⟩ := c.validate_keeps
  calc c.validate.2
      = { c.validate.2.declared with
          input := c.validate.2.input, errors := c.validate.2.errors,
          converted := c.validate.2.converted } := rfl
    _ = { c with errors := c.validate.2.errors, converted := c.validate.2.converted } := by
      rw [hset, hinput]
      rfl

/-- **Validation is exact.** Whatever was done to a component, validation changes nothing but its
errors and its value. These are what it is to find: that a required field is blank, and nothing
else; or that the input does not convert, and nothing else, whatever the validators are; or what the
validators report that are asked, in the order in which they were added. The answer says whether
there are errors, there is a value exactly if the input has more than blanks and converts, and
validation again gives the same answer and changes nothing. -/
theorem validate_run (id : String) (operations : List Operation)
    (h : ∀ v ∈ operations.filterMap Operation.validator?, v.OfValue) :
    let c := (create id).run operations
    let after := c.validate.2
    c.validators = operations.filterMap Operation.validator? ∧
    after = { c with errors := after.errors, converted := after.converted } ∧
    (∀ errors value, Finding c errors value ↔ after.errors = errors ∧ after.converted = value) ∧
    ((c.required = true ∧ c.Blank) ∨ (∃ s e, c.Filled s ∧ c.type.convert s = .error e) →
      ∀ vs, ({ c with validators := vs } : Component).validate =
        (false, { after with validators := vs })) ∧
    (c.validate.1 = true ↔ after.errors = []) ∧
    (∀ value, after.converted = some value ↔
      ∃ s, c.Filled s ∧ c.type.convert s = .ok value) ∧
    after.validate = c.validate := by
  intro c after
  have hadded : c.validators = operations.filterMap Operation.validator? :=
    validators_run (create id) operations
  have hsettled : c.Settled := settled_run (fun _ => rfl) operations
  exact ⟨hadded, c.validate_eq_with, fun _ _ => finding_iff hsettled (hadded ▸ h),
    validate_withValidators, c.validate_eq_true_iff,
    fun _ => converted_validate_eq_some_iff hsettled, c.validate_validate⟩

/-- A name is given and validated, and then it is left out: nothing is left of the first round, and
the validator is not asked about the name that is missing. -/
theorem validate_run_name :
    let operations : List Operation := [.required true, .validator (.length (some 2) none),
      .input (some "A"), .validate, .input (some " ")]
    let c := (create "name").run operations
    (∀ v ∈ operations.filterMap Operation.validator?, v.OfValue) ∧
      ((create "name").run (operations.take 4)).errors =
        ["'name' must be at least 2 characters long"] ∧
      c.validate.2.errors = ["'name' is required"] ∧ c.validate.2.converted = none ∧
      c.validate.2.validate = c.validate := by
  intro operations c
  have hvalidators : ∀ v ∈ operations.filterMap Operation.validator?, v.OfValue :=
    List.forall_mem_singleton.mpr (Validator.ofValue_length _ _)
  obtain ⟨-, -, hfinding, -, -, -, hagain⟩ := validate_run "name" operations hvalidators
  have hmissing : Finding c ["'name' is required"] none :=
    .missing rfl fun s hs => Option.some.inj hs ▸ rfl
  obtain ⟨herrors, hvalue⟩ := (hfinding _ _).mp hmissing
  exact ⟨hvalidators, by decide, herrors, hvalue, hagain⟩

end Component

end WebMount.Form
