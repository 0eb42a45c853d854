import WebMount.Resource.Script
import WebMount.Response.Reception
import WebMount.Response.Transcript
import WebMount.Server.Dispatch

/-!
# Delivery of a resource

While the program of a resource writes a streamed response, the client receives it. The writer goes
in small steps: an operation first does what it does to the head, and then sends its piece of the
body, for which it waits while the channel is full. When the program is done, the head is sent if it
was not, or the body is ended by the failure, and then the response is closed. Between any two steps
the receiver may take what has arrived, or go away.
-/

namespace WebMount

open WebMount.Response

/-- Whether the writer has to wait before it can send. If the receiver is gone, sending fails at
once. -/
def Response.Channel.isFull (c : Channel) : Bool :=
  c.received && !c.hasRoom

/-- What the writer of a response is about to do. -/
inductive Writer where
  /-- To go on with the program of the resource. -/
  | running (script : Script (Except ResourceError Unit))
  /-- To send the piece of an operation that it has begun. -/
  | sending (op : Op) (bytes : Bytes)
    (next : Except IoError Unit → Script (Except ResourceError Unit))
  /-- To end the body with the failure of the program. -/
  | failing (reason : ResourceError)
  /-- To close the response; the program has ended. -/
  | closing (result : Except ResourceError Unit)
  /-- Nothing more: the response is closed. -/
  | closed (result : Except ResourceError Unit)

/-- Whether the response is closed. -/
def Writer.isClosed : Writer → Bool
  | closed _ => true
  | _ => false

/-- Something that happened during a delivery. -/
inductive Event where
  /-- An operation did what it does to the head. -/
  | began (op : Op)
  /-- An item of the body was put on its way. -/
  | sent (item : Item)
  /-- An operation returned. -/
  | returned (op : Op) (outcome : Except IoError Unit)
  /-- The receiver went away. -/
  | left

/-- The operation that began. -/
def Event.op? : Event → Option Op
  | began op => some op
  | _ => none

/-- The item that was sent. -/
def Event.item? : Event → Option Item
  | sent item => some item
  | _ => none

/-- The delivery of a response. -/
structure Delivery where
  link : Link
  writer : Writer
  /-- What happened, in order. -/
  log : List Event := []

/-- A move in a delivery. -/
inductive Delivery.Move where
  /-- The writer makes its next step. -/
  | write
  /-- The receiver takes what comes next. -/
  | take
  /-- The receiver goes away. -/
  | leave
  deriving DecidableEq, Repr

namespace Delivery

/-- The delivery of the response of a program. -/
def start (capacity : Nat) (script : Script (Except ResourceError Unit)) : Delivery :=
  { link := .create capacity, writer := .running script }

/-- The delivery after a step of the writer, given the writer's end of the response, what the writer
is about to do, and what happened. -/
def wrote (d : Delivery) (sink : Streaming) (writer : Writer) (events : List Event) : Delivery :=
  { link := { d.link with sink }, writer, log := d.log ++ events }

/-- The beginning of an operation. -/
def begin (d : Delivery) (op : Op)
    (next : Except IoError Unit → Script (Except ResourceError Unit)) : Delivery :=
  match op.piece? d.link.sink.committed with
  | none =>
    d.wrote (d.link.sink.prepare op) (.running (next (.ok ()))) [.began op, .returned op (.ok ())]
  | some bytes => d.wrote (d.link.sink.prepare op) (.sending op bytes next) [.began op]

/-- The end of an operation that has a piece to send. -/
def send (d : Delivery) (op : Op) (bytes : Bytes)
    (next : Except IoError Unit → Script (Except ResourceError Unit)) : Delivery :=
  match d.link.sink.send (.chunk bytes) with
  | (.ok (), sink) =>
    d.wrote sink (.running (next (op.outcome (.ok ()))))
      [.sent (.chunk bytes), .returned op (op.outcome (.ok ()))]
  | (.error e, sink) =>
    d.wrote sink (.running (next (op.outcome (.error e)))) [.returned op (op.outcome (.error e))]

/-- The end of the program. A failure behind the head has to be told, and one before it is the whole
answer; a defect leaves the response as it is. -/
def conclude (d : Delivery) (result : Except ResourceError Unit) : Delivery :=
  match result with
  | .ok () => d.wrote d.link.sink.commit (.closing result) []
  | .error e =>
    if d.link.sink.committed && !e.isDefect then d.wrote d.link.sink (.failing e) []
    else d.wrote d.link.sink (.closing result) []

/-- The item that tells a failure. -/
def failureItem (reason : ResourceError) : Item :=
  .failure (.other reason.message)

/-- The end of a body that fails. -/
def fail (d : Delivery) (reason : ResourceError) : Delivery :=
  match d.link.sink.send (failureItem reason) with
  | (.ok (), sink) => d.wrote sink (.closing (.error reason)) [.sent (failureItem reason)]
  | (.error _, sink) => d.wrote sink (.closing (.error reason)) []

/-- The next step of the writer, unless it has to wait or is done. -/
def write? (d : Delivery) : Option Delivery :=
  match d.writer with
  | .running (.op op next) => some (d.begin op next)
  | .running (.done result) => some (d.conclude result)
  | .sending op bytes next =>
    if d.link.sink.channel.isFull then none else some (d.send op bytes next)
  | .failing reason => if d.link.sink.channel.isFull then none else some (d.fail reason)
  | .closing result => some { d with writer := .closed result }
  | .closed _ => none

/-- The receiver takes what comes next, unless it has to wait or is done. -/
def take? (d : Delivery) : Option Delivery :=
  (d.link.take? d.writer.isClosed).map fun link => { d with link }

/-- The receiver goes away, unless it is done. -/
def leave? (d : Delivery) : Option Delivery :=
  match d.link.receiver with
  | .waiting | .reading =>
    some { d with
      link := { d.link with sink := d.link.sink.dropReceiver, receiver := .gone }
      log := d.log ++ [.left] }
  | .finished | .gone => none

/-- A move, if it can be made. -/
def move? (d : Delivery) : Move → Option Delivery
  | .write => d.write?
  | .take => d.take?
  | .leave => d.leave?

/-- Moves one after the other, if each can be made when it is its turn. -/
def run? (d : Delivery) : List Move → Option Delivery
  | [] => some d
  | move :: moves => (d.move? move).bind fun d => d.run? moves

/-- The operations that took effect, in order. -/
def begun (d : Delivery) : List Op :=
  d.log.filterMap Event.op?

/-- The items of the body that were put on their way, in order. -/
def sent (d : Delivery) : List Item :=
  d.log.filterMap Event.item?

end Delivery

/-- The answer that the arrivals of a whole response make. A response without a head is a
failure. -/
def Answer.ofArrivals : List Arrival → Answer
  | .head head :: body =>
    { head
      body := body.flatMap Arrival.bytes
      failure := body.findSome? Arrival.failure? }
  | _ => .failed

end WebMount
