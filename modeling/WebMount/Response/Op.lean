import WebMount.Storage.IoError
import WebMount.Response.Headers
import WebMount.Text.Utf8

/-!
# Operations on a response

A response is written by five operations: set the status, set a header field, send an error in
place of a body, write bytes of the body, and flush. A sink is whatever takes these operations;
writing and flushing can fail, and a write that is interrupted has to be made again.
-/

namespace WebMount

/-- An operation on a response. -/
inductive Response.Op where
  | status (code : Nat)
  | error (code : Nat) (message : Option String)
  | header (name value : String)
  | write (bytes : Bytes)
  | flush
  deriving DecidableEq, Repr

/-- A step of something that takes operations interrupts a write and leaves it in another state. -/
def Response.Interrupts {σ : Type} (step : σ → Response.Op → Except IoError Unit × σ)
    (after before : σ) : Prop :=
  ∃ (bytes : Bytes) (cause : IoError),
    step before (.write bytes) = (.error cause, after) ∧ cause.kind = .interrupted

/-- Something that takes the operations on a response one after the other. It may interrupt a
write, which then is made again, but it does not do so for ever. -/
class Sink (σ : Type) where
  /-- One operation: whether it succeeds, and the sink after it. -/
  step : σ → Response.Op → Except IoError Unit × σ
  /-- No state is followed by interruptions without end. -/
  patient : WellFounded (Response.Interrupts step)

namespace Response

/-- What interrupts no write is patient. -/
theorem Interrupts.wellFounded {σ : Type} {step : σ → Op → Except IoError Unit × σ}
    (h : ∀ after before, ¬Interrupts step after before) : WellFounded (Interrupts step) :=
  ⟨fun s => ⟨s, fun after hafter => absurd hafter (h after s)⟩⟩

/-- A sink that interrupts no write. -/
class Steady (σ : Type) [Sink σ] : Prop where
  not_interrupts : ∀ after before : σ, ¬Interrupts Sink.step after before

/-- The status and the header fields of a response. -/
structure Head where
  status : Nat := 200
  headers : Headers := {}
  deriving DecidableEq, Repr

/-- The content type of the text of an error. -/
def plainText : String := "text/plain; charset=utf-8"

/-- The head of the answer that reports an error. A message has a content type. -/
def Head.ofError (head : Head) (code : Nat) (message : Option String) : Head :=
  { status := code,
    headers := if message.isSome then head.headers.set "content-type" plainText else head.headers }

/-- The bytes of the text of an error. -/
def messageBytes (message : Option String) : Bytes :=
  Utf8.ofString (message.getD "")

/-- Operations up to the first one that fails. -/
def run {σ : Type} [Sink σ] (s : σ) : List Op → Except IoError Unit × σ
  | [] => (.ok (), s)
  | op :: ops =>
    match Sink.step s op with
    | (.ok (), s) => run s ops
    | (.error e, s) => (.error e, s)

end Response

end WebMount
