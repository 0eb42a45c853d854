import WebMount.Number.Checked
import WebMount.Response.Op

/-!
# Transfer of bytes to a response

The bytes of a stream are copied to a sink buffer by buffer, and a part of a buffer is written as
one piece. A stream is given by what its reads do, so interruptions and failures are part of it.
A write that is interrupted is made again before anything else happens; it comes to an end because
sinks are patient. An output counts the writes that its sink accepted.
-/

namespace WebMount.Response

/-- The size of the buffer that a stream is read into. -/
def bufferSize : Nat := 4096

/-- A piece of a stream. -/
inductive Piece where
  | data (bytes : Bytes)
  /-- A read is interrupted and has to be repeated. -/
  | interrupted
  /-- A read fails for good. -/
  | failing (cause : IoError)
  deriving DecidableEq, Repr

/-- What one read of a stream does. A read of no bytes is the end of the stream. -/
inductive ReadResult where
  | bytes (chunk : Bytes)
  | interrupted
  | failing (cause : IoError)
  deriving DecidableEq, Repr

/-- Bytes cut into chunks of at most `size`, all but the last one full; `fuel` is at least their
number. -/
def chunksFrom (size : Nat) : Nat → Bytes → List Bytes
  | 0, _ => []
  | fuel + 1, bytes =>
    if bytes = [] then [] else bytes.take size :: chunksFrom size fuel (bytes.drop size)

/-- Bytes cut into chunks of the size of the buffer, all but the last one full. -/
def chunks (bytes : Bytes) : List Bytes :=
  chunksFrom bufferSize bytes.length bytes

/-- What the reads do that take a piece. A piece without bytes is read as the end of the stream. -/
def Piece.reads : Piece → List ReadResult
  | data [] => [.bytes []]
  | data bytes => (chunks bytes).map .bytes
  | interrupted => [.interrupted]
  | failing cause => [.failing cause]

/-- What the reads of a stream do, in order, up to its end. -/
def reads (pieces : List Piece) : List ReadResult :=
  pieces.flatMap Piece.reads

/-- A sink and the number of writes that it accepted. -/
structure Output (σ : Type) where
  sink : σ
  writes : Nat := 0

namespace Output

variable {σ : Type} [Sink σ]

/-- One write of bytes. Writing no bytes does not reach the sink. -/
def write (out : Output σ) (bytes : Bytes) : Except IoError Nat × Output σ :=
  if bytes = [] then (.ok 0, out)
  else
    match Sink.step out.sink (.write bytes) with
    | (.ok (), sink) => (.ok bytes.length, ⟨sink, out.writes + 1⟩)
    | (.error cause, sink) => (.error cause, ⟨sink, out.writes⟩)

/-- A flush of the sink. -/
def flush (out : Output σ) : Except IoError Unit × Output σ :=
  let (result, sink) := Sink.step out.sink .flush
  (result, { out with sink })

theorem write_of_ok {out : Output σ} {bytes : Bytes} {sink : σ} (hbytes : bytes ≠ [])
    (h : Sink.step out.sink (.write bytes) = (.ok (), sink)) :
    out.write bytes = (.ok bytes.length, ⟨sink, out.writes + 1⟩) := by
  rw [write, if_neg hbytes, h]

theorem write_of_error {out : Output σ} {bytes : Bytes} {cause : IoError} {sink : σ}
    (hbytes : bytes ≠ []) (h : Sink.step out.sink (.write bytes) = (.error cause, sink)) :
    out.write bytes = (.error cause, ⟨sink, out.writes⟩) := by
  rw [write, if_neg hbytes, h]

/-- A write that fails leaves the output as the sink leaves it. -/
theorem step_of_write_eq_error {out after : Output σ} {bytes : Bytes} {cause : IoError}
    (h : out.write bytes = (.error cause, after)) :
    Sink.step out.sink (.write bytes) = (.error cause, after.sink) := by
  rw [write] at h
  split at h
  · exact absurd h (by simp)
  · split at h
    · exact absurd h (by simp)
    · next hstep =>
      obtain ⟨hcause, rfl⟩ := Prod.mk.inj h
      rw [hstep, Except.error.inj hcause]

instance : WellFoundedRelation (Output σ) where
  rel := InvImage (Interrupts Sink.step) sink
  wf := InvImage.wf sink Sink.patient

/-- Writes until no bytes are left. A write that is interrupted is made again. -/
def writeAll (out : Output σ) (bytes : Bytes) : Except IoError Unit × Output σ :=
  if bytes = [] then (.ok (), out)
  else
    match h : out.write bytes with
    | (.ok 0, after) => (.error .writeZero, after)
    | (.ok (n + 1), after) => after.writeAll (bytes.drop (n + 1))
    | (.error cause, after) =>
      if _ : cause.kind = .interrupted then after.writeAll bytes else (.error cause, after)
termination_by (bytes.length, out)
decreasing_by
  · next hbytes =>
    have hpos := List.length_pos_iff.mpr hbytes
    refine Prod.Lex.left _ _ ?_
    rw [List.length_drop]
    omega
  · exact Prod.Lex.right _ ⟨bytes, cause, step_of_write_eq_error h, ‹_›⟩

/-- Copies what the reads deliver, each chunk as a whole, to the end of the stream or the first
failure. The result is the number of bytes copied, added to `total`. -/
def copyFrom (out : Output σ) (total : Nat) : List ReadResult → Except IoError Nat × Output σ
  | [] => (.ok total, out)
  | .interrupted :: rest => copyFrom out total rest
  | .failing cause :: _ => (.error cause, out)
  | .bytes chunk :: rest =>
    if chunk = [] then (.ok total, out)
    else
      match out.writeAll chunk with
      | (.ok (), out) => copyFrom out (total + chunk.length) rest
      | (.error cause, out) => (.error cause, out)

/-- Copies a stream. The result is the number of bytes copied. -/
def copy (out : Output σ) (pieces : List Piece) : Except IoError Nat × Output σ :=
  out.copyFrom 0 (reads pieces)

/-- Writes `length` bytes of a buffer from `offset` on if the buffer has them. -/
def writePart (out : Output σ) (buffer : Bytes) (offset length : UInt64) :
    Except IoError Unit × Output σ :=
  match (Number.checkedAdd? offset length).filter fun stop => stop.toNat ≤ buffer.length with
  | some stop => out.writeAll ((buffer.take stop.toNat).drop offset.toNat)
  | none => (.error (.rangeOutside offset.toNat length.toNat buffer.length), out)

/-- Writes `length` bytes of a buffer from `offset` on. A whole buffer is written as it is. -/
def writeRange (out : Output σ) (buffer : Bytes) (offset length : UInt64) :
    Except IoError Unit × Output σ :=
  if offset = 0 ∧ length.toNat = buffer.length then out.writeAll buffer
  else out.writePart buffer offset length

end Output

end WebMount.Response
