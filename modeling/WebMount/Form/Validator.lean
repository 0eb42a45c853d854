import WebMount.Form.Value

/-!
# Validators

A validator looks at the label and the converted value of a field and reports errors. Most say
nothing about a field without a value; one that accepts missing values is asked about it too.
The bounds of a validator belong to what it accepts.
-/

namespace WebMount.Form

open WebMount.Number

/-- A check of the converted value of a field. -/
inductive Validator where
  /-- Bounds on the number of characters of a text. -/
  | length (min max : Option Nat)
  /-- Bounds on a number. -/
  | range (min max : Binary)
  /-- Any other check. It is given the label, the value, and whether no error was reported
  before it. -/
  | custom (acceptsMissing : Bool) (report : String → Option Value → Bool → List String)

namespace Validator

/-- Whether the validator is asked about a field without a value. -/
def acceptsMissing : Validator → Bool
  | custom acceptsMissing _ => acceptsMissing
  | _ => false

/-- The errors about the length of a text. -/
def lengthErrors (min max : Option Nat) (label : String) (length : Nat) : List String :=
  match min, max with
  | some min, some max =>
    if length < min ∨ max < length then
      [s!"'{label}' must be between {min} and {max} characters long"]
    else []
  | some min, none =>
    if length < min then [s!"'{label}' must be at least {min} characters long"] else []
  | none, some max =>
    if max < length then [s!"'{label}' must be at most {max} characters long"] else []
  | none, none => []

/-- The errors about a number. -/
def rangeErrors (min max : Binary) (label : String) (number : Binary) : List String :=
  if number.lt min || max.lt number then
    let low := String.ofList (min.render binary64)
    let high := String.ofList (max.render binary64)
    [s!"'{label}' must be between {low} and {high}"]
  else []

/-- The errors that the validator reports about a value. -/
def errors (v : Validator) (label : String) (value : Option Value) (valid : Bool) : List String :=
  match v with
  | length min max =>
    match value.bind Value.text? with
    | some text => lengthErrors min max label text.length
    | none => []
  | range min max =>
    match value.bind Value.number? with
    | some number => rangeErrors min max label number
    | none => []
  | custom _ report => report label value valid

/-- The errors of validators in order, added to those in `reported`. Without a value, only the
validators are asked that accept that. -/
def collect (label : String) (value : Option Value) (reported : List String) :
    List Validator → List String
  | [] => reported
  | v :: vs =>
    if value.isSome || v.acceptsMissing then
      collect label value (reported ++ v.errors label value reported.isEmpty) vs
    else collect label value reported vs

end Validator

end WebMount.Form
