import WebMount.Response.Buffered
import WebMount.Response.Command
import WebMount.Response.Streaming

/-!
# Reception of a streamed response

The receiver of a streamed response waits for the head and then reads the body, item by item, at
its own pace. That no head comes, or that the body is complete, it learns only once the response is
closed, that is when its writer is done with it. Both ends together form a link, on which the writer
and the receiver take turns in any order.
-/

namespace WebMount.Response

/-- What reaches the receiver of a response. -/
inductive Arrival where
  | head (head : Head)
  | chunk (bytes : Bytes)
  /-- The body ends before its time. -/
  | failure (cause : IoError)
  /-- The body has ended. -/
  | complete
  /-- There is no head, so there is no response. -/
  | refused
  deriving DecidableEq, Repr

/-- The bytes of the body that an arrival holds. -/
def Arrival.bytes : Arrival → Bytes
  | chunk bytes => bytes
  | _ => []

/-- The failure that an arrival tells. -/
def Arrival.failure? : Arrival → Option IoError
  | failure cause => some cause
  | _ => none

/-- The bytes of an item of the body. -/
def Item.bytes : Item → Bytes
  | chunk bytes => bytes
  | failure _ => []

/-- How far the receiver of a response is. -/
inductive Receiver where
  /-- It waits for the head. -/
  | waiting
  /-- It has the head and reads the body. -/
  | reading
  /-- It knows how the response ended. -/
  | finished
  /-- It went away before that. -/
  | gone
  deriving DecidableEq, Repr

/-- What the receiver takes next from a channel, if it need not wait for it, with the receiver and
the channel afterwards. -/
def Receiver.take (r : Receiver) (c : Channel) (closed : Bool) :
    Option (Arrival × Receiver × Channel) :=
  match r with
  | waiting =>
    match c.head with
    | some head => some (.head head, reading, { c with head := none })
    | none => if closed then some (.refused, finished, c) else none
  | reading =>
    match c.items with
    | .chunk bytes :: items => some (.chunk bytes, reading, { c with items })
    | .failure cause :: items => some (.failure cause, finished, { c with items })
    | [] => if closed then some (.complete, finished, c) else none
  | finished => none
  | gone => none

/-- Both ends of a streamed response, with what has reached the receiver so far. -/
structure Link where
  sink : Streaming
  receiver : Receiver := .waiting
  /-- What the receiver took, oldest first. -/
  arrivals : List Arrival := []
  deriving DecidableEq, Repr

namespace Link

/-- A link on which a number of chunks can be on their way, at least one. -/
def create (capacity : Nat) : Link :=
  { sink := .create capacity }

/-- The link after the receiver took what comes next, if it need not wait. -/
def take? (l : Link) (closed : Bool) : Option Link :=
  (l.receiver.take l.sink.channel closed).map fun (arrival, receiver, channel) =>
    { sink := { l.sink with channel }, receiver, arrivals := l.arrivals ++ [arrival] }

/-- The link after the receiver took what comes next, or as it is if the receiver has to wait. -/
def take (l : Link) (closed : Bool) : Link :=
  (l.take? closed).getD l

/-- The link after the receiver took a number of times from a response that is closed. -/
def drain (l : Link) : Nat → Link
  | 0 => l
  | n + 1 => (l.take true).drain n

/-- The link when its writer sends the head, if it did not do so before. -/
def commit (l : Link) : Link :=
  { l with sink := l.sink.commit }

/-- A turn on a link. -/
inductive Turn where
  /-- The writer performs a command. -/
  | perform (c : Command)
  /-- The receiver takes what comes next. -/
  | take
  deriving DecidableEq, Repr

/-- The command of a turn of the writer. -/
def Turn.command? : Turn → Option Command
  | perform c => some c
  | take => none

/-- Turns on a link: for each turn of the writer how its command ended and whether the head was
committed after it, and the link in the end. -/
def run (l : Link) : List Turn → List (Except Failure Unit × Bool) × Link
  | [] => ([], l)
  | .take :: turns => run (l.take false) turns
  | .perform c :: turns =>
    let (result, sink) := Response.perform l.sink c
    let (results, l) := run { l with sink } turns
    ((result, sink.committed) :: results, l)

/-- The head that was sent, whether or not it has arrived. -/
def sentHead? (l : Link) : Option Head :=
  match l.arrivals with
  | .head head :: _ => some head
  | _ => l.sink.channel.head

/-- The bytes of the body that were sent, whether or not they have arrived. -/
def sentBody (l : Link) : Bytes :=
  l.arrivals.flatMap Arrival.bytes ++ l.sink.channel.items.flatMap Item.bytes

end Link

namespace Buffered

/-- Commands to a buffered response: for each command how it ended and whether the head was
committed after it, and the response in the end. -/
def performEach (b : Buffered) : List Command → List (Except Failure Unit × Bool) × Buffered
  | [] => ([], b)
  | c :: cs =>
    let (result, b) := perform b c
    let (results, t) := performEach b cs
    ((result, b.committed) :: results, t)

end Buffered

end WebMount.Response
