import WebMount.Proofs.Resource.Script
import WebMount.Proofs.Response.Command
import WebMount.Response.Recorder

/-!
# What is copied is what was read

The reads of a stream deliver chunks up to the end of the stream or to the read that fails
(`delivered`, `readFailure?`). A write that is interrupted is made again, and so it is accepted or
refused in the end (`Settles`, `settles_writeAll`). A copy is then told by the writes of the chunks
alone, made one after the other: either all of them are accepted, and then the stream decides how
the copy ends, or one of them is refused, and then nothing behind it is written (`copyFrom_cases`).
Bytes that are at hand are delivered in full buffers and what is left over (`map_length_chunks`).
-/

namespace WebMount

open WebMount.Response

namespace Response

/-! ### What a stream delivers -/

/-- The chunks that a stream delivers before it ends or fails. -/
def delivered : List ReadResult → List Bytes
  | [] => []
  | .interrupted :: rest => delivered rest
  | .failing _ :: _ => []
  | .bytes chunk :: rest => if chunk = [] then [] else chunk :: delivered rest

/-- The failure that a stream breaks off with, if it does not end. -/
def readFailure? : List ReadResult → Option IoError
  | [] => none
  | .interrupted :: rest => readFailure? rest
  | .failing cause :: _ => some cause
  | .bytes chunk :: rest => if chunk = [] then none else readFailure? rest

/-- A stream without its interruptions. -/
def steady (rs : List ReadResult) : List ReadResult :=
  rs.filter (· ≠ .interrupted)

/-- A stream is what it delivers, and behind that its end or its failure. -/
theorem exists_steady_eq (rs : List ReadResult) : ∃ rest : List ReadResult,
    steady rs = (delivered rs).map .bytes ++ rest ∧
      ((readFailure? rs = none ∧ (rest = [] ∨ rest.head? = some (.bytes []))) ∨
        ∃ cause, readFailure? rs = some cause ∧ rest.head? = some (.failing cause)) := by
  induction rs with
  | nil => exact ⟨[], rfl, .inl ⟨rfl, .inl rfl⟩⟩
  | cons r rs ih =>
    cases r with
    | interrupted => exact ih
    | failing cause => exact ⟨.failing cause :: steady rs, rfl, .inr ⟨cause, rfl, rfl⟩⟩
    | bytes chunk =>
      by_cases hchunk : chunk = []
      · subst hchunk
        exact ⟨.bytes [] :: steady rs, rfl, .inl ⟨rfl, .inr rfl⟩⟩
      · obtain ⟨rest, hrest, hstop⟩ := ih
        rw [delivered, readFailure?, if_neg hchunk, if_neg hchunk]
        exact ⟨rest, congrArg (ReadResult.bytes chunk :: ·) hrest, hstop⟩

theorem ne_nil_of_mem_delivered {rs : List ReadResult} {chunk : Bytes}
    (h : chunk ∈ delivered rs) : chunk ≠ [] := by
  induction rs with
  | nil => exact absurd h List.not_mem_nil
  | cons r rs ih =>
    cases r with
    | interrupted => exact ih h
    | failing cause => exact absurd h List.not_mem_nil
    | bytes first =>
      rw [delivered] at h
      split at h
      · exact absurd h List.not_mem_nil
      · next hfirst =>
        rcases List.mem_cons.mp h with rfl | hrest
        · exact hfirst
        · exact ih hrest

/-- Interruptions lose nothing and repeat nothing. -/
theorem delivered_steady (rs : List ReadResult) :
    delivered (steady rs) = delivered rs ∧ readFailure? (steady rs) = readFailure? rs := by
  induction rs with
  | nil => exact ⟨rfl, rfl⟩
  | cons r rs ih =>
    cases r with
    | interrupted => exact ih
    | failing cause => exact ⟨rfl, rfl⟩
    | bytes chunk =>
      have hsteady : steady (.bytes chunk :: rs) = .bytes chunk :: steady rs := rfl
      rw [hsteady]
      rw [delivered, delivered, readFailure?, readFailure?, ih.1, ih.2]
      exact ⟨rfl, rfl⟩

/-! ### Chunks of bytes -/

/-- Chunks that are read one after the other, none of them empty. -/
theorem delivered_map_bytes {read : List Bytes} (h : ∀ chunk ∈ read, chunk ≠ []) :
    delivered (read.map .bytes) = read ∧ readFailure? (read.map .bytes) = none := by
  induction read with
  | nil => exact ⟨rfl, rfl⟩
  | cons chunk read ih =>
    obtain ⟨hchunk, hread⟩ := List.forall_mem_cons.mp h
    rw [List.map_cons, delivered, readFailure?, if_neg hchunk, if_neg hchunk, (ih hread).1,
      (ih hread).2]
    exact ⟨rfl, rfl⟩

theorem delivered_reads_data (bytes : Bytes) :
    delivered (reads [.data bytes]) = chunks bytes ∧ readFailure? (reads [.data bytes]) = none := by
  cases bytes with
  | nil => exact ⟨rfl, rfl⟩
  | cons b bytes =>
    rw [reads_data (List.cons_ne_nil b bytes)]
    exact delivered_map_bytes fun _ => ne_nil_of_mem_chunks

/-- **All chunks are full but the last one**, and that is not empty. -/
theorem map_length_chunksFrom {size fuel : Nat} {bytes : Bytes} (hsize : 0 < size)
    (hfuel : bytes.length ≤ fuel) :
    (chunksFrom size fuel bytes).map List.length =
      List.replicate (bytes.length / size) size ++
        if bytes.length % size = 0 then [] else [bytes.length % size] := by
  induction fuel generalizing bytes with
  | zero =>
    rw [Nat.le_zero.mp hfuel, Nat.zero_div, Nat.zero_mod]
    rfl
  | succ fuel ih =>
    rw [chunksFrom]
    by_cases hbytes : bytes = []
    · simp [hbytes]
    have hpos := List.length_pos_iff.mpr hbytes
    have hrest : (bytes.drop size).length ≤ fuel := by
      rw [List.length_drop]
      omega
    rw [if_neg hbytes, List.map_cons, ih hrest, List.length_take, List.length_drop]
    rcases Nat.lt_or_ge bytes.length size with hlast | hfull
    · -- what is left over
      have hdrop : bytes.length - size = 0 := Nat.sub_eq_zero_of_le (Nat.le_of_lt hlast)
      rw [hdrop, Nat.min_eq_right (Nat.le_of_lt hlast), Nat.div_eq_of_lt hlast,
        Nat.mod_eq_of_lt hlast, if_neg (Nat.ne_of_gt hpos)]
      simp
    · rw [Nat.min_eq_left hfull, Nat.div_eq_sub_div hsize hfull, Nat.mod_eq_sub_mod hfull,
        List.replicate_succ, List.cons_append]

theorem map_length_chunks (bytes : Bytes) :
    (chunks bytes).map List.length =
      List.replicate (bytes.length / bufferSize) bufferSize ++
        if bytes.length % bufferSize = 0 then [] else [bytes.length % bufferSize] :=
  map_length_chunksFrom (by decide) (Nat.le_refl _)

/-! ### Writes -/

section Writes

variable {σ : Type} [Sink σ]

/-- A write of bytes, made again after every interruption, has a result and leaves a sink. -/
inductive Settles (bytes : Bytes) : σ → Except IoError Unit → σ → Prop
  | accepted {s t : σ} (h : Sink.step s (.write bytes) = (.ok (), t)) : Settles bytes s (.ok ()) t
  | refused {s t : σ} {cause : IoError} (h : Sink.step s (.write bytes) = (.error cause, t))
      (hcause : cause.kind ≠ .interrupted) : Settles bytes s (.error cause) t
  | again {s t u : σ} {cause : IoError} {result : Except IoError Unit}
      (h : Sink.step s (.write bytes) = (.error cause, t)) (hcause : cause.kind = .interrupted)
      (hrest : Settles bytes t result u) : Settles bytes s result u

/-- Chunks are written one after the other, and each of them is accepted in the end. -/
inductive Accepts : σ → List Bytes → σ → Prop
  | nil (s : σ) : Accepts s [] s
  | cons {s t u : σ} {chunk : Bytes} {chunks : List Bytes} (hchunk : Settles chunk s (.ok ()) t)
      (hrest : Accepts t chunks u) : Accepts s (chunk :: chunks) u

/-- A write is not refused for being interrupted. -/
theorem Settles.kind_ne {bytes : Bytes} {s t : σ} {result : Except IoError Unit}
    (h : Settles bytes s result t) :
    ∀ cause, result = .error cause → cause.kind ≠ .interrupted := by
  induction h with
  | accepted => exact fun cause hcause => nomatch hcause
  | refused _ hkind =>
    rintro cause ⟨⟩
    exact hkind
  | again _ _ _ ih => exact ih

/-- **Every write comes to an end**, and how it ends is what becomes of it. -/
theorem settles_writeAll (s : σ) (writes : Nat) {bytes : Bytes} (hbytes : bytes ≠ []) :
    Settles bytes s (Output.writeAll ⟨s, writes⟩ bytes).1
      (Output.writeAll ⟨s, writes⟩ bytes).2.sink := by
  -- the induction is on the interruptions that are still to come
  have hpatient : WellFounded (Interrupts (@Sink.step σ _)) := Sink.patient
  induction s using hpatient.induction with
  | h s ih =>
    obtain ⟨answer, t, hstep⟩ : ∃ answer t, Sink.step s (.write bytes) = (answer, t) :=
      ⟨_, _, rfl⟩
    cases answer with
    | ok =>
      rw [Output.writeAll_of_ok hbytes hstep]
      exact .accepted hstep
    | error cause =>
      by_cases hcause : cause.kind = .interrupted
      · rw [Output.writeAll_of_interrupted hbytes hstep hcause]
        exact .again hstep hcause (ih t ⟨bytes, cause, hstep, hcause⟩)
      · rw [Output.writeAll_of_refused hbytes hstep hcause]
        exact .refused hstep hcause

/-- Where no write is interrupted, a write is settled by the first answer. -/
theorem settles_iff (hnever : ∀ after before : σ, ¬Interrupts Sink.step after before)
    (bytes : Bytes) (s : σ) (result : Except IoError Unit) (t : σ) :
    Settles bytes s result t ↔ Sink.step s (.write bytes) = (result, t) := by
  constructor
  · rintro (h | ⟨h, -⟩ | ⟨h, hcause, -⟩)
    · exact h
    · exact h
    · exact absurd ⟨bytes, _, h, hcause⟩ (hnever _ _)
  · intro h
    cases result with
    | ok => exact .accepted h
    | error cause => exact .refused h fun hcause => hnever _ _ ⟨bytes, cause, h, hcause⟩

theorem accepts_iff (hnever : ∀ after before : σ, ¬Interrupts Sink.step after before) (s : σ)
    (chunks : List Bytes) (t : σ) :
    Accepts s chunks t ↔ run s (chunks.map .write) = (.ok (), t) := by
  constructor
  · intro h
    induction h with
    | nil s => rfl
    | cons hchunk _ ih =>
      rw [List.map_cons, run, (settles_iff hnever ..).mp hchunk]
      exact ih
  · intro h
    induction chunks generalizing s with
    | nil =>
      obtain rfl := congrArg Prod.snd h
      exact .nil s
    | cons chunk chunks ih =>
      rw [List.map_cons, run] at h
      split at h
      · next u hchunk => exact .cons ((settles_iff hnever ..).mpr hchunk) (ih u h)
      · exact absurd (congrArg Prod.fst h) (by simp)

end Writes

/-! ### Copies -/

variable {σ : Type} [Sink σ]

/-- How a copy ends if all its writes are accepted. -/
def copied (total : Nat) (rs : List ReadResult) : Except IoError Nat :=
  match readFailure? rs with
  | none => .ok (total + (delivered rs).flatten.length)
  | some cause => .error cause

/-- **A copy makes the writes of what is delivered**, up to the first one that is refused. -/
theorem copyFrom_cases (s : σ) (writes total : Nat) (rs : List ReadResult) :
    (∃ out : Output σ, Output.copyFrom ⟨s, writes⟩ total rs = (copied total rs, out) ∧
      Accepts s (delivered rs) out.sink) ∨
    ∃ (before : List Bytes) (chunk : Bytes) (after : List Bytes) (t : σ) (cause : IoError)
        (out : Output σ),
      delivered rs = before ++ chunk :: after ∧ Accepts s before t ∧
      Settles chunk t (.error cause) out.sink ∧
      Output.copyFrom ⟨s, writes⟩ total rs = (.error cause, out) := by
  induction rs generalizing s writes total with
  | nil => exact .inl ⟨_, rfl, .nil s⟩
  | cons r rs ih =>
    cases r with
    | interrupted => exact ih s writes total
    | failing cause => exact .inl ⟨_, rfl, .nil s⟩
    | bytes chunk =>
      by_cases hchunk : chunk = []
      · subst hchunk
        exact .inl ⟨_, rfl, .nil s⟩
      have hsettles := settles_writeAll s writes hchunk
      simp only [Output.copyFrom, delivered, copied, readFailure?, if_neg hchunk,
        List.flatten_cons, List.length_append]
      generalize Output.writeAll ⟨s, writes⟩ chunk = written at hsettles ⊢
      obtain ⟨answer, out⟩ := written
      cases answer with
      | error cause =>
        exact .inr ⟨[], chunk, delivered rs, s, cause, out, rfl, .nil s, hsettles, rfl⟩
      | ok =>
        rcases ih out.sink out.writes (total + chunk.length) with
          ⟨last, hcopy, haccepts⟩ |
          ⟨before, bad, after, t, cause, last, hsplit, haccepts, hbad, hcopy⟩
        · refine .inl ⟨last, ?_, .cons hsettles haccepts⟩
          simp only [copied, Nat.add_assoc] at hcopy
          exact hcopy
        · exact .inr ⟨chunk :: before, bad, after, t, cause, last, by rw [hsplit, List.cons_append],
            .cons hsettles haccepts, hbad, hcopy⟩

/-- Interruptions of reads make no difference to a copy. -/
theorem copyFrom_steady (out : Output σ) (total : Nat) (rs : List ReadResult) :
    out.copyFrom total (steady rs) = out.copyFrom total rs := by
  induction rs generalizing out total with
  | nil => rfl
  | cons r rs ih =>
    cases r with
    | interrupted => exact ih out total
    | failing cause => rfl
    | bytes chunk =>
      have hsteady : steady (.bytes chunk :: rs) = .bytes chunk :: steady rs := rfl
      rw [hsteady, Output.copyFrom, Output.copyFrom]
      by_cases hchunk : chunk = []
      · rw [if_pos hchunk, if_pos hchunk]
      rw [if_neg hchunk, if_neg hchunk]
      obtain ⟨answer, out⟩ := out.writeAll chunk
      cases answer with
      | ok => exact ih out _
      | error cause => rfl

end Response

variable {σ : Type} [Sink σ]

theorem writeStream_steady (s : σ) (rs : List ReadResult) :
    writeStream s (steady rs) = writeStream s rs := by
  rw [writeStream, writeStream, copyFrom_steady]

/-- The step of a body that copies a stream. -/
theorem BodyStep.take_stream (s : σ) (pieces : List Piece) :
    BodyStep.take s (.stream pieces) =
      ((writeStream s (reads pieces)).1.map fun _ => (), (writeStream s (reads pieces)).2) := by
  rw [take, writeStream, Output.copy]
  obtain ⟨result, out⟩ := Output.copyFrom ⟨s, 0⟩ 0 (reads pieces)
  cases result <;> rfl

/-- **What is copied to a response is exactly what was read.** A stream is what it delivers, chunks
that are not empty, and then its end or its failure. If all chunks are accepted, each written as a
whole, then the copy ends as the stream does, with the number of bytes or with the failure of the
read. Otherwise one write is refused: what was read before it was written, nothing behind it is, and
the copy ends with the failure of the write. Interruptions make no difference: a read that is
interrupted is left out, and a write is made again until it is accepted or refused; where no write
is interrupted, there is one write for each chunk. Bytes that are at hand are delivered in full
buffers and one with what is left over, if anything is. -/
theorem writeStream_copies (s : σ) (rs : List ReadResult) :
    (∃ rest : List ReadResult, steady rs = (delivered rs).map .bytes ++ rest ∧
      ((readFailure? rs = none ∧ (rest = [] ∨ rest.head? = some (.bytes []))) ∨
        ∃ cause, readFailure? rs = some cause ∧ rest.head? = some (.failing cause))) ∧
    (∀ chunk ∈ delivered rs, chunk ≠ []) ∧
    ((∃ t, Accepts s (delivered rs) t ∧
        (readFailure? rs = none →
          writeStream s rs = (.ok (delivered rs).flatten.length, t)) ∧
        ∀ cause, readFailure? rs = some cause → writeStream s rs = (.error (.stream cause), t)) ∨
      ∃ (before : List Bytes) (chunk : Bytes) (after : List Bytes) (t : σ) (cause : IoError)
          (u : σ),
        delivered rs = before ++ chunk :: after ∧ Accepts s before t ∧
        Settles chunk t (.error cause) u ∧ cause.kind ≠ .interrupted ∧
        writeStream s rs = (.error (.stream cause), u)) ∧
    ((∀ after before : σ, ¬Interrupts Sink.step after before) →
      (∀ (s : σ) (chunks : List Bytes) (t : σ),
        Accepts s chunks t ↔ run s (chunks.map .write) = (.ok (), t)) ∧
      ∀ (bytes : Bytes) (s : σ) (result : Except IoError Unit) (t : σ),
        Settles bytes s result t ↔ Sink.step s (.write bytes) = (result, t)) ∧
    writeStream s (steady rs) = writeStream s rs ∧
    (∀ pieces, reads pieces = rs → BodyStep.take s (.stream pieces) =
      ((writeStream s rs).1.map fun _ => (), (writeStream s rs).2)) ∧
    ∀ bytes, steady rs = reads [.data bytes] →
      readFailure? rs = none ∧ (delivered rs).flatten = bytes ∧
      (delivered rs).map List.length =
        List.replicate (bytes.length / bufferSize) bufferSize ++
          if bytes.length % bufferSize = 0 then [] else [bytes.length % bufferSize] := by
  refine ⟨exists_steady_eq rs, fun _ => ne_nil_of_mem_delivered, ?_,
    fun hnever => ⟨accepts_iff hnever, settles_iff hnever⟩, writeStream_steady s rs, ?_, ?_⟩
  · rw [writeStream]
    rcases copyFrom_cases s 0 0 rs with
      ⟨out, hcopy, haccepts⟩ | ⟨before, chunk, after, t, cause, out, hsplit, haccepts, hbad, hcopy⟩
    · refine .inl ⟨out.sink, haccepts, fun hend => ?_, fun cause hfailure => ?_⟩
      · rw [hcopy, copied, hend, Nat.zero_add]
        rfl
      · rw [hcopy, copied, hfailure]
        rfl
    · refine .inr ⟨before, chunk, after, t, cause, out.sink, hsplit, haccepts, hbad,
        hbad.kind_ne cause rfl, ?_⟩
      rw [hcopy]
      rfl
  · rintro pieces rfl
    exact BodyStep.take_stream s pieces
  · intro bytes hbytes
    obtain ⟨hchunks, hfailure⟩ := delivered_steady rs
    obtain ⟨hdata, hend⟩ := delivered_reads_data bytes
    rw [hbytes] at hchunks hfailure
    rw [← hchunks, ← hfailure, hdata]
    exact ⟨hend, flatten_chunks bytes, map_length_chunks bytes⟩

/-- A sink that interrupts a number of writes before it takes any. -/
structure Hesitant where
  interruptions : Nat
  accepted : List Op := []
  deriving DecidableEq, Repr

/-- One operation on a hesitant sink. -/
def Hesitant.step (s : Hesitant) (op : Op) : Except IoError Unit × Hesitant :=
  match s.interruptions with
  | 0 => (.ok (), { s with accepted := s.accepted ++ [op] })
  | n + 1 => (.error ⟨.interrupted, "interrupted"⟩, { s with interruptions := n })

/-- Every interruption is one less to come. -/
theorem Hesitant.interruptions_lt {after before : Hesitant} (h : Interrupts step after before) :
    after.interruptions < before.interruptions := by
  obtain ⟨bytes, cause, hstep, -⟩ := h
  rw [step] at hstep
  split at hstep
  · exact absurd (congrArg Prod.fst hstep) (by simp)
  · next n hn =>
    obtain ⟨-, rfl⟩ := Prod.mk.inj hstep
    rw [hn]
    exact Nat.lt_succ_self n

instance : Sink Hesitant where
  step := Hesitant.step
  patient := Subrelation.wf Hesitant.interruptions_lt (measure Hesitant.interruptions).wf

/-- Three bytes between two interruptions of reads, a sink that takes one write and no more, and one
that interrupts the write twice. -/
theorem writeStream_copies_three :
    let rs : List ReadResult := [.interrupted, .bytes [1, 2, 3], .interrupted]
    let s : Recorder := { writeLimit := some 1 }
    steady rs = reads [.data [1, 2, 3]] ∧ (delivered rs).flatten = [1, 2, 3] ∧
      BodyStep.take s (.stream [.data [1, 2, 3]]) =
        (.ok (), { s with accepted := [.write [1, 2, 3]], writes := 1 }) ∧
      BodyStep.take s (.stream [.data [1, 2, 3], .interrupted, .data [4]]) =
        (.error (.stream Recorder.clientGone),
          { s with accepted := [.write [1, 2, 3]], writes := 1 }) ∧
      writeStream (⟨2, []⟩ : Hesitant) rs = (.ok 3, ⟨0, [.write [1, 2, 3]]⟩) := by
  intro rs s
  have hsteady : steady rs = reads [.data [1, 2, 3]] := by decide
  obtain ⟨-, -, -, -, -, -, hbytes⟩ := writeStream_copies s rs
  obtain ⟨-, -, -, -, hsame, -⟩ := writeStream_copies (⟨2, []⟩ : Hesitant) rs
  refine ⟨hsteady, (hbytes _ hsteady).2.1, ?_, ?_, ?_⟩
  · rw [← BodyStep.run_script]
    decide
  · rw [← BodyStep.run_script]
    decide
  · -- the write is made three times
    have hbytes : ([1, 2, 3] : Bytes) ≠ [] := by decide
    have hwrite : Output.writeAll ⟨(⟨2, []⟩ : Hesitant), 0⟩ [1, 2, 3] =
        (.ok (), ⟨⟨0, [.write [1, 2, 3]]⟩, 1⟩) := by
      rw [Output.writeAll_of_interrupted hbytes rfl rfl,
        Output.writeAll_of_interrupted hbytes rfl rfl, Output.writeAll_of_ok hbytes rfl]
      rfl
    have hread : steady rs = [.bytes [1, 2, 3]] := by decide
    rw [← hsame, hread, writeStream, Output.copyFrom, if_neg hbytes, hwrite]
    rfl

end WebMount
