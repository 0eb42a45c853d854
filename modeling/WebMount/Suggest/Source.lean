import WebMount.Text.Blank
import WebMount.Text.LowerCase
import WebMount.Text.Slice

/-!
# Sources of suggestions

A source gives suggestions for the text typed so far. Fixed choices are offered if they begin
with what was typed, both in lower case and what was typed without blanks around it; nothing is
offered for blanks alone.
-/

namespace WebMount

open WebMount.Text

/-- A source of suggestions. -/
inductive SuggestionSource where
  /-- Fixed choices, of which at most a number is offered. -/
  | fixed (choices : List String) (limit : Nat)
  /-- Suggestions computed from the text. -/
  | computed (suggest : String → List String)

namespace SuggestionSource

/-- Whether a choice is offered for a text that is in lower case already. -/
def offers (typed : List Char) (choice : String) : Bool :=
  (dropStart? typed (toLowerCase choice.toList)).isSome

/-- The suggestions for the text typed so far. -/
def suggestions : SuggestionSource → String → List String
  | fixed choices limit, input =>
    match toLowerCase (trim input.toList) with
    | [] => []
    | typed => (choices.filter (offers typed)).take limit
  | computed suggest, input => suggest input

end SuggestionSource

end WebMount
