import WebMount.Response.Transcript
import WebMount.Resource.Script

/-!
# Streams are copied whole

A write ends as the sink answers it for good: it is accepted, or made again if it is interrupted,
or refused (`writeAll_of_ok`, `writeAll_of_interrupted`, `writeAll_of_refused`). The bytes of a
stream are cut into chunks, none of which is empty and which together are the bytes again
(`ne_nil_of_mem_chunks`, `flatten_chunks`). A copy writes the chunks that are read one by one
(`play_copyScript_append`), so a stream of bytes is copied with no failure and with no byte more or
less (`play_copyScript_data`).
-/

namespace WebMount

namespace Response

variable {ρ τ ε : Type}

/-! ### What programs perform where nothing fails -/

theorem Script.play_bind (p : Script ρ) (k : ρ → Script τ) :
    (p.bind k).play = (p.play.1 ++ (k p.play.2).play.1, (k p.play.2).play.2) := by
  induction p with
  | done result => rfl
  | op o next ih => simp only [Script.bind, Script.play, ih, List.cons_append]

@[simp] theorem Script.play_map (f : ρ → τ) (p : Script ρ) :
    (p.map f).play = (p.play.1, f p.play.2) := by
  simp [Script.map, play_bind, play]

/-- A program that succeeds is followed by the next one. -/
theorem Script.play_andThen {p : Script (Except ε Unit)} (q : Script (Except ε Unit))
    (h : p.play.2 = .ok ()) : (p.andThen q).play = (p.play.1 ++ q.play.1, q.play.2) := by
  rw [Script.andThen, play_bind, h]

/-! ### Writes -/

namespace Output

variable {σ : Type} [Sink σ] {out : Output σ} {bytes : Bytes} {cause : IoError} {sink : σ}

theorem writeAll_nil (out : Output σ) : out.writeAll [] = (.ok (), out) := by
  rw [writeAll, if_pos rfl]

theorem writeAll_of_ok (hbytes : bytes ≠ [])
    (h : Sink.step out.sink (.write bytes) = (.ok (), sink)) :
    out.writeAll bytes = (.ok (), ⟨sink, out.writes + 1⟩) := by
  rw [writeAll, if_neg hbytes]
  obtain ⟨b, rest, rfl⟩ := List.exists_cons_of_ne_nil hbytes
  rw [write_of_ok hbytes h]
  -- the write takes all of the bytes, so none are left for another one
  change writeAll _ ((b :: rest).drop (b :: rest).length) = _
  rw [List.drop_length, writeAll_nil]

theorem writeAll_of_interrupted (hbytes : bytes ≠ [])
    (h : Sink.step out.sink (.write bytes) = (.error cause, sink))
    (hcause : cause.kind = .interrupted) :
    out.writeAll bytes = writeAll ⟨sink, out.writes⟩ bytes := by
  rw [writeAll, if_neg hbytes, write_of_error hbytes h]
  exact dif_pos hcause

theorem writeAll_of_refused (hbytes : bytes ≠ [])
    (h : Sink.step out.sink (.write bytes) = (.error cause, sink))
    (hcause : cause.kind ≠ .interrupted) :
    out.writeAll bytes = (.error cause, ⟨sink, out.writes⟩) := by
  rw [writeAll, if_neg hbytes, write_of_error hbytes h]
  exact dif_neg hcause

/-- **Without interruptions, bytes are written at once**: the sink is asked once, and its answer is
the result. -/
theorem writeAll_eq [Steady σ] (out : Output σ) (hbytes : bytes ≠ []) :
    out.writeAll bytes =
      ((Sink.step out.sink (.write bytes)).1, ⟨(Sink.step out.sink (.write bytes)).2,
        out.writes + (Sink.step out.sink (.write bytes)).1.isOk.toNat⟩) := by
  obtain ⟨answer, sink, hstep⟩ : ∃ answer sink,
      Sink.step out.sink (.write bytes) = (answer, sink) := ⟨_, _, rfl⟩
  rw [hstep]
  cases answer with
  | ok _ => exact writeAll_of_ok hbytes hstep
  | error cause =>
    exact writeAll_of_refused hbytes hstep fun hcause =>
      Steady.not_interrupts sink out.sink ⟨_, _, hstep, hcause⟩

end Output

/-! ### Chunks -/

theorem flatten_chunksFrom {size fuel : Nat} {bytes : Bytes} (hsize : 0 < size)
    (hfuel : bytes.length ≤ fuel) : (chunksFrom size fuel bytes).flatten = bytes := by
  induction fuel generalizing bytes with
  | zero => rw [List.length_eq_zero_iff.mp (Nat.le_zero.mp hfuel)]; rfl
  | succ fuel ih =>
    rw [chunksFrom]
    split
    · next hbytes => rw [hbytes]; rfl
    · next hbytes =>
      have hpos := List.length_pos_iff.mpr hbytes
      have hrest : (bytes.drop size).length ≤ fuel := by
        rw [List.length_drop]
        omega
      rw [List.flatten_cons, ih hrest, List.take_append_drop]

theorem ne_nil_of_mem_chunksFrom {size fuel : Nat} {bytes chunk : Bytes} (hsize : 0 < size)
    (h : chunk ∈ chunksFrom size fuel bytes) : chunk ≠ [] := by
  induction fuel generalizing bytes with
  | zero => exact absurd h List.not_mem_nil
  | succ fuel ih =>
    rw [chunksFrom] at h
    split at h
    · exact absurd h List.not_mem_nil
    · next hbytes =>
      rcases List.mem_cons.mp h with rfl | h
      · rw [Ne, List.take_eq_nil_iff]
        exact fun hnil => hnil.elim (Nat.ne_of_gt hsize) hbytes
      · exact ih h

/-- No byte is lost between the chunks. -/
theorem flatten_chunks (bytes : Bytes) : (chunks bytes).flatten = bytes :=
  flatten_chunksFrom (by decide) (Nat.le_refl _)

theorem ne_nil_of_mem_chunks {bytes chunk : Bytes} (h : chunk ∈ chunks bytes) : chunk ≠ [] :=
  ne_nil_of_mem_chunksFrom (by decide) h

/-- Bytes that are at hand are read chunk by chunk. -/
theorem reads_data {bytes : Bytes} (h : bytes ≠ []) :
    reads [.data bytes] = (chunks bytes).map .bytes := by
  rw [reads, List.flatMap_singleton]
  cases bytes with
  | nil => exact absurd rfl h
  | cons b bytes => rfl

/-! ### Copies -/

/-- Chunks that are read are written one by one, and the copy goes on behind them. -/
theorem play_copyScript_append {read : List Bytes} (h : ∀ chunk ∈ read, chunk ≠ [])
    (rest : List ReadResult) :
    (copyScript (read.map .bytes ++ rest)).play =
      (read.map .write ++ (copyScript rest).play.1, (copyScript rest).play.2) := by
  induction read with
  | nil => rfl
  | cons chunk read ih =>
    have hchunk := h chunk List.mem_cons_self
    have hread := ih fun c hc => h c (List.mem_cons_of_mem chunk hc)
    simp only [List.map_cons, List.cons_append, copyScript, if_neg hchunk, Script.play, hread]

/-- **A stream of bytes is copied whole.** The copy succeeds, and what it writes is the bytes. -/
theorem play_copyScript_data (bytes : Bytes) :
    (copyScript (reads [.data bytes])).play = ((chunks bytes).map .write, .ok ()) := by
  cases bytes with
  | nil => rfl
  | cons b bytes =>
    have hchunks : ∀ chunk ∈ chunks (b :: bytes), chunk ≠ [] :=
      fun _ => ne_nil_of_mem_chunks
    have hread := play_copyScript_append hchunks []
    rw [List.append_nil] at hread
    rw [reads_data (List.cons_ne_nil b bytes), hread]
    simp only [copyScript, Script.play, List.append_nil]

theorem flatMap_bytes_write (written : List Bytes) :
    (written.map Op.write).flatMap Op.bytes = written.flatten := by
  induction written with
  | nil => rfl
  | cons bytes written ih => rw [List.map_cons, List.flatMap_cons, ih]; rfl

end Response

open WebMount.Response

namespace BodyStep

/-- A body that is one stream of bytes. -/
theorem play_scriptAll_stream (content : Bytes) :
    (BodyStep.scriptAll [.stream [.data content]]).play =
      ((chunks content).map .write, .ok ()) := by
  have hstep : (BodyStep.script (.stream [.data content])).play =
      ((chunks content).map .write, .ok ()) := by
    rw [BodyStep.script, Script.play_map, play_copyScript_data]
    rfl
  rw [BodyStep.scriptAll, Script.play_andThen _ (by rw [hstep]), hstep]
  exact Prod.ext (List.append_nil _) rfl

end BodyStep

end WebMount
