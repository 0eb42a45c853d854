import WebMount.Response.Op

/-!
# Buffered responses

A response that is kept whole until it is complete. The head can be changed until it is
committed, which the first write, flush or error does; afterwards only the body grows.

The writes are kept one by one, so that each takes the same time however long the body is. What
they amount to is `Buffered.body`, which every operation but a write or an error leaves as it is
(`body_step_write`, `body_step_flush`, `body_step_status`, `body_step_header`).
-/

namespace WebMount.Response

/-- A response that is kept whole. -/
structure Buffered where
  head : Head := {}
  /-- The pieces of the body, the newest first. -/
  written : List Bytes := []
  committed : Bool := false
  flushes : Nat := 0
  deriving DecidableEq, Repr

namespace Buffered

/-- The body so far. -/
def body (s : Buffered) : Bytes :=
  s.written.foldl (fun after bytes => bytes ++ after) []

/-- The body holds the pieces in the order of their writes. -/
theorem body_eq_flatten (s : Buffered) : s.body = s.written.reverse.flatten := by
  have joined (pieces : List Bytes) (after : Bytes) :
      pieces.foldl (fun after bytes => bytes ++ after) after =
        pieces.reverse.flatten ++ after := by
    induction pieces generalizing after with
    | nil => rfl
    | cons bytes pieces ih => simp [ih]
  rw [body, joined, List.append_nil]

/-- One operation on a buffered response. -/
def step (s : Buffered) : Op → Buffered
  | .status code => if s.committed then s else { s with head := { s.head with status := code } }
  | .header name value =>
    if s.committed then s
    else { s with head := { s.head with headers := s.head.headers.set name value } }
  | .error code message =>
    if s.committed then s
    else
      { s with
        head := s.head.ofError code message
        written := [messageBytes message]
        committed := true }
  | .write bytes => { s with committed := true, written := bytes :: s.written }
  | .flush => { s with committed := true, flushes := s.flushes + 1 }

@[simp] theorem body_create : ({} : Buffered).body = [] := rfl

@[simp] theorem body_step_write (s : Buffered) (bytes : Bytes) :
    (s.step (.write bytes)).body = s.body ++ bytes := by
  simp [step, body_eq_flatten]

@[simp] theorem body_step_flush (s : Buffered) : (s.step .flush).body = s.body := rfl

@[simp] theorem body_step_status (s : Buffered) (code : Nat) :
    (s.step (.status code)).body = s.body := by
  cases h : s.committed <;> simp [step, body, h]

@[simp] theorem body_step_header (s : Buffered) (name value : String) :
    (s.step (.header name value)).body = s.body := by
  cases h : s.committed <;> simp [step, body, h]

/-- An error is the whole body, unless the head is sent already. -/
theorem body_step_error (s : Buffered) (code : Nat) (message : Option String) :
    (s.step (.error code message)).body =
      if s.committed then s.body else messageBytes message := by
  cases h : s.committed <;> simp [step, body, h]

end Buffered

/-- No operation on a buffered response fails, so none is interrupted. -/
theorem Buffered.not_interrupts (after before : Buffered) :
    ¬Interrupts (fun s op => (.ok (), s.step op)) after before := by
  rintro ⟨bytes, cause, h, -⟩
  exact absurd (congrArg Prod.fst h) (by simp)

instance : Sink Buffered where
  step s op := (.ok (), s.step op)
  patient := Interrupts.wellFounded Buffered.not_interrupts

instance : Steady Buffered where
  not_interrupts := Buffered.not_interrupts

end WebMount.Response
