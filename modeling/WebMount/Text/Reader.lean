import WebMount.Text.Slice

/-!
# Reading a text from the left

A reader takes a value from the front of a text and leaves the rest, or refuses the text. It is
the state monad over the rest of the text with refusal, so readers are put together with `do`
and tried one after the other with `<|>`.
-/

namespace WebMount.Text

/-- A value read from the front of a text, and the rest of the text. -/
abbrev Reader := StateT (List Char) Option

namespace Reader

variable {α : Type}

/-- The value of a text that is read to its end. -/
def whole (r : Reader α) (s : List Char) : Option α :=
  match r.run s with
  | some (a, []) => some a
  | _ => none

/-- The next character if it satisfies `p`. -/
def satisfy (p : Char → Bool) : Reader Char
  | c :: s => if p c then some (c, s) else none
  | [] => none

/-- Exactly the text `t`. -/
def literal (t : List Char) : Reader Unit :=
  fun s => (dropStart? t s).map fun rest => ((), rest)

/-- Exactly the character `c`. -/
def char (c : Char) : Reader Unit :=
  literal [c]

/-- All characters at the front that satisfy `p`. -/
def many (p : Char → Bool) : Reader (List Char) :=
  fun s => some (s.span p)

/-- All characters at the front that satisfy `p`, of which there is at least one. -/
def many1 (p : Char → Bool) : Reader (List Char) := do
  let c ← satisfy p
  return c :: (← many p)

/-- The text in front of the next `mark`, which is read as well. -/
def through (mark : Char) : Reader (List Char) :=
  fun s => splitFirst? mark s

/-- The position in `table` of the first entry that stands at the front of the text. -/
def oneOf (table : List (List Char)) : Reader Nat :=
  fun s => table.zipIdx.findSome? fun (entry, i) => (dropStart? entry s).map fun rest => (i, rest)

/-- The value of `r`, or nothing where `r` refuses the text. -/
def optional (r : Reader α) : Reader (Option α) :=
  fun s => match r.run s with
    | some (a, rest) => some (some a, rest)
    | none => some (none, s)

/-- The values that `r` reads one after the other, behind those in `found`, which are in reverse,
and the rest that it refuses. It reads at most once for each character of `limit`. -/
def takeAll (r : Reader α) : (limit : List Char) → (s : List Char) → (found : List α) →
    List α × List Char
  | [], s, found => (found.reverse, s)
  | _ :: limit, s, found =>
    match r.run s with
    | none => (found.reverse, s)
    | some (a, rest) => takeAll r limit rest (a :: found)

/-- The values that `r` reads one after the other, as long as it reads one. It reads at most once
for each character of the text, which is no limit to a reader that always takes something. -/
def repeated (r : Reader α) : Reader (List α) :=
  fun s => some (takeAll r s s [])

/-- The values that `r` reads, at least one, with what `separator` reads between them. -/
def separated (separator : Reader Unit) (r : Reader α) : Reader (List α) := do
  let a ← r
  return a :: (← repeated (separator *> r))

end Reader

end WebMount.Text
