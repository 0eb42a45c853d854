import WebMount.Response.Transcript
import WebMount.Response.Transfer

/-!
# Parts of buffers, written one after the other

A request to write a part of a buffer gives its place and its length as machine words, and they
need not lie in the buffer. What reaches a sink is told by watching it: everything that it is asked
for is kept, with its answer.
-/

namespace WebMount.Response

/-- A part of a buffer that is to be written. The buffer is addressed by machine words. -/
structure RangeWrite where
  buffer : Bytes
  offset : UInt64
  length : UInt64
  fits : buffer.length < UInt64.size

namespace RangeWrite

/-- The place behind the part, as a number without bound. -/
def stop (r : RangeWrite) : Nat :=
  r.offset.toNat + r.length.toNat

/-- The bytes of the part. -/
def slice (r : RangeWrite) : Bytes :=
  (r.buffer.drop r.offset.toNat).take r.length.toNat

/-- The failure to write a part that is not in the buffer. -/
def outside (r : RangeWrite) : IoError :=
  .rangeOutside r.offset.toNat r.length.toNat r.buffer.length

/-- The bytes that a request brings to a sink, by what becomes of it. -/
def sent (r : RangeWrite) : Except IoError Unit → Bytes
  | .ok () => r.slice
  | .error _ => []

/-- Whether a request is counted, by what becomes of it. -/
def counted (r : RangeWrite) (result : Except IoError Unit) : Bool :=
  r.length != 0 && result.isOk

end RangeWrite

/-- A sink, and what it was asked for with its answers, in order. -/
structure Watched (σ : Type) where
  sink : σ
  asked : List (Op × Except IoError Unit) := []

/-- The bytes that an operation brings to a sink, by the answer to it. -/
def Op.accepted (op : Op) : Except IoError Unit → Bytes
  | .ok () => op.bytes
  | .error _ => []

/-- The bytes that a sink has received. -/
def Watched.received {σ : Type} (w : Watched σ) : Bytes :=
  w.asked.flatMap fun (op, answer) => op.accepted answer

/-- One operation on a watched sink. -/
def Watched.step {σ : Type} [Sink σ] (w : Watched σ) (op : Op) : Except IoError Unit × Watched σ :=
  let (answer, sink) := Sink.step w.sink op
  (answer, ⟨sink, w.asked ++ [(op, answer)]⟩)

/-- A watched sink interrupts a write only where the sink does. -/
theorem Watched.interrupts_sink {σ : Type} [Sink σ] {after before : Watched σ}
    (h : Interrupts step after before) : Interrupts Sink.step after.sink before.sink := by
  obtain ⟨bytes, cause, hstep, hcause⟩ := h
  have hanswer : (Sink.step before.sink (.write bytes)).1 = .error cause := congrArg Prod.fst hstep
  have hsink : (Sink.step before.sink (.write bytes)).2 = after.sink := congrArg (·.2.sink) hstep
  exact ⟨bytes, cause, Prod.ext hanswer hsink, hcause⟩

instance {σ : Type} [Sink σ] : Sink (Watched σ) where
  step := Watched.step
  patient := Subrelation.wf Watched.interrupts_sink (InvImage.wf Watched.sink Sink.patient)

instance {σ : Type} [Sink σ] [Steady σ] : Steady (Watched σ) where
  not_interrupts _ _ h := Steady.not_interrupts _ _ (Watched.interrupts_sink h)

namespace Output

variable {σ : Type} [Sink σ]

/-- Writes a part of a buffer. -/
def perform (out : Output σ) (r : RangeWrite) : Except IoError Unit × Output σ :=
  out.writeRange r.buffer r.offset r.length

/-- Writes parts of buffers one after the other, whatever becomes of each of them. -/
def performAll (out : Output σ) : List RangeWrite → List (Except IoError Unit) × Output σ
  | [] => ([], out)
  | r :: rs =>
    let (result, out) := out.perform r
    let (results, out) := out.performAll rs
    (result :: results, out)

end Output

end WebMount.Response
