import WebMount.Response.Op

/-!
# Streamed responses

A response that is sent while it is written. The head goes out when it is committed, and after
it the body chunk by chunk, through a channel with a bounded number of chunks in flight. An
operation has two parts, what it does to the head (`prepare`) and the piece of the body that it
sends (`Op.piece?`). Sending waits while the channel is full (`Channel.hasRoom`), which the writer
is not told. The body ends cleanly when the writer is done, or with a failure when the response is
aborted.
-/

namespace WebMount.Response

/-- A piece of a body on its way. -/
inductive Item where
  | chunk (bytes : Bytes)
  /-- The body ends here, before its time. -/
  | failure (cause : IoError)
  deriving DecidableEq, Repr

/-- What stands between the writer of a response and its receiver. -/
structure Channel where
  /-- The head, once it is committed, until the receiver takes it. -/
  head : Option Head := none
  /-- The chunks in flight, oldest first. -/
  items : List Item := []
  /-- The number of chunks that can be in flight. -/
  capacity : Nat := 1
  /-- Whether the receiver is still there. -/
  received : Bool := true
  deriving DecidableEq, Repr

/-- Whether one more piece of the body can be put on its way without waiting. -/
def Channel.hasRoom (c : Channel) : Bool :=
  decide (c.items.length < c.capacity)

/-- The writer of a streamed response, with its channel. -/
structure Streaming where
  head : Head := {}
  committed : Bool := false
  channel : Channel := {}
  deriving DecidableEq, Repr

/-- The piece of the body that an operation adds, if it adds one, given whether the head was sent
before it. An error that comes after the head adds none. -/
def Op.piece? (committed : Bool) : Op → Option Bytes
  | .error _ message => if committed then none else message.map Utf8.ofString
  | .write bytes => if bytes = [] then none else some bytes
  | _ => none

/-- How an operation ends, given how its piece of the body was sent. The writer of an error is not
told that its message did not get through. -/
def Op.outcome : Op → Except IoError Unit → Except IoError Unit
  | .write _, sent => sent
  | _, _ => .ok ()

namespace Streaming

/-- A response with a channel for a number of chunks, at least one. -/
def create (capacity : Nat) : Streaming :=
  { channel := { capacity := max capacity 1 } }

/-- The response after its receiver went away. -/
def dropReceiver (s : Streaming) : Streaming :=
  { s with channel := { s.channel with received := false, head := none, items := [] } }

/-- The response with its head sent, unless it was sent before. A head that nobody receives is
lost. -/
def commit (s : Streaming) : Streaming :=
  if s.committed then s
  else
    { s with
      committed := true
      channel := { s.channel with head := if s.channel.received then some s.head else none } }

/-- The response with one more piece of the body on its way. -/
def send (s : Streaming) (item : Item) : Except IoError Unit × Streaming :=
  if s.channel.received then
    (.ok (), { s with channel := { s.channel with items := s.channel.items ++ [item] } })
  else (.error .receiverGone, s)

/-- The response as an operation leaves it before it sends a piece of the body. -/
def prepare (s : Streaming) : Op → Streaming
  | .status code =>
    if s.committed then s else { s with head := { s.head with status := code } }
  | .header name value =>
    if s.committed then s
    else { s with head := { s.head with headers := s.head.headers.set name value } }
  | .error code message =>
    if s.committed then s else commit { s with head := s.head.ofError code message }
  | .write _ => s.commit
  | .flush => s.commit

/-- One operation on a streamed response. -/
def step (s : Streaming) (op : Op) : Except IoError Unit × Streaming :=
  match op.piece? s.committed with
  | none => (.ok (), s.prepare op)
  | some bytes =>
    let (sent, s) := (s.prepare op).send (.chunk bytes)
    (op.outcome sent, s)

/-- A write fails only if the receiver is gone, and then it does so for good. -/
theorem not_interrupts (after before : Streaming) : ¬Interrupts step after before := by
  rintro ⟨bytes, cause, h, hcause⟩
  have hfailed : (before.step (.write bytes)).1 = .error cause := congrArg Prod.fst h
  simp only [step, send, Op.outcome] at hfailed
  split at hfailed
  · exact absurd hfailed (by simp)
  · split at hfailed
    · exact absurd hfailed (by simp)
    · obtain rfl := Except.error.inj hfailed
      exact absurd hcause (by decide)

instance : Sink Streaming where
  step := step
  patient := Interrupts.wellFounded not_interrupts

instance : Steady Streaming where
  not_interrupts := not_interrupts

/-- The response given up: after the commitment its body ends with the failure, and before it
nothing is ever received. -/
def abort (s : Streaming) (cause : IoError) : Streaming :=
  if s.committed then (s.send (.failure cause)).2 else s

end Streaming

/-- What the receiver of a response has in the end: the head, the chunks, and the failure that
ended the body, if one did. -/
structure Received where
  head : Head
  chunks : List Bytes
  failure : Option IoError := none
  deriving DecidableEq, Repr

/-- The chunks up to the first failure, and the failure. -/
def drain : List Item → List Bytes × Option IoError
  | [] => ([], none)
  | .failure cause :: _ => ([], some cause)
  | .chunk bytes :: items =>
    let (chunks, failure) := drain items
    (bytes :: chunks, failure)

/-- The response that a receiver gets who waits for all of it, once the writer is done. -/
def Streaming.response? (s : Streaming) : Option Received :=
  s.channel.head.map fun head =>
    let (chunks, failure) := drain s.channel.items
    ⟨head, chunks, failure⟩

end WebMount.Response
